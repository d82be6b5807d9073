import Stencil.Proofs.Include.Render
import Stencil.Proofs.Render.Unopened
import Stencil.Proofs.Warnings.Causes

set_option autoImplicit false

namespace Stencil

namespace Progress

def warnings (progress : Progress) : List Event := progress.log.filter Event.isWarning

end Progress

namespace Engine

/-- A render up to where a stage begins. -/
def reach (engine : Engine) (files : Files) (cache : Cache) (context : Context) (document : Text)
    (stage : Stage) : Progress :=
  (Stage.all.takeWhile (· ≠ stage)).foldl (engine.step files) ⟨document, context, cache, []⟩

theorem reach_next {stage next : Stage}
    (order : Stage.all.takeWhile (· ≠ next) = Stage.all.takeWhile (· ≠ stage) ++ [stage])
    (engine : Engine) (files : Files) (cache : Cache) (context : Context) (document : Text) :
    engine.reach files cache context document next =
      engine.step files (engine.reach files cache context document stage) stage := by
  rw [reach, reach, order, List.foldl_append, List.foldl_cons, List.foldl_nil]

/-- What is left of a render when a stage begins. -/
theorem render_eq_foldl_reach {engine : Engine} {context : Context}
    (enabled : engine.config.enabled = true) (heeding : context.ignoresSyntax = false)
    (files : Files) (cache : Cache) (document : Text) (stage : Stage) :
    engine.render files cache context document =
      (Stage.all.dropWhile (· ≠ stage)).foldl (engine.step files)
        (engine.reach files cache context document stage) := by
  simp only [render, enabled, heeding, Bool.not_true, Bool.false_eq_true, ↓reduceIte]
  rw [reach, ← List.foldl_append, List.takeWhile_append_dropWhile]

theorem step_context (engine : Engine) (files : Files) (progress : Progress) {stage : Stage}
    (other : stage ≠ .metadata) :
    (engine.step files progress stage).context = progress.context := by
  unfold step
  split
  · exact runStage_context engine files _ other
  · rfl

/-- Behind the first stage the context is the one that the render ends with. -/
theorem reach_context {engine : Engine} {context : Context}
    (enabled : engine.config.enabled = true) (heeding : context.ignoresSyntax = false)
    (files : Files) (cache : Cache) (document : Text) {stage : Stage} (other : stage ≠ .metadata) :
    (engine.reach files cache context document stage).context =
      (engine.render files cache context document).context := by
  have recorded : .metadata ∉ Stage.all.dropWhile (· ≠ stage) := by
    revert other
    cases stage <;> decide
  rw [render_eq_foldl_reach enabled heeding files cache document stage,
    foldl_context (fun progress _ => step_context engine files progress) recorded]

theorem runStage_log (engine : Engine) (files : Files) (progress : Progress) (stage : Stage) :
    (engine.runStage files progress stage).log =
      progress.log ++ (engine.runStage files progress.unlogged stage).log := by
  cases stage <;> simp [runStage, Progress.take, Progress.unlogged]

theorem step_warnings (engine : Engine) (files : Files) (progress : Progress) (stage : Stage) :
    (engine.step files progress stage).warnings =
      progress.warnings ++ (engine.runStage files progress.unlogged stage).warnings := by
  cases found : applies stage progress.text with
  | true =>
      have run : engine.step files progress stage =
          engine.runStage files (progress.report (.stageStarted stage)) stage := by
        simp only [step, found, ↓reduceIte]
      have started : (progress.report (.stageStarted stage)).warnings = progress.warnings := by
        simp only [Progress.warnings, Progress.report, List.filter_append]
        exact List.append_nil _
      rw [run, ← started, Progress.warnings, runStage_log, List.filter_append]
      rfl
  | false =>
      have skipped : engine.step files progress stage = progress := by
        simp only [step, found, Bool.false_eq_true, ↓reduceIte]
      have none : applies stage progress.unlogged.text = false := found
      rw [skipped, runStage_of_not_applies engine files none]
      exact (List.append_nil _).symm

/-- The warnings that one stage of a render adds. -/
def warned (engine : Engine) (files : Files) (cache : Cache) (context : Context) (document : Text)
    (stage : Stage) : List Event :=
  (engine.runStage files (engine.reach files cache context document stage).unlogged stage).warnings

theorem reach_warnings {stage next : Stage}
    (order : Stage.all.takeWhile (· ≠ next) = Stage.all.takeWhile (· ≠ stage) ++ [stage])
    (engine : Engine) (files : Files) (cache : Cache) (context : Context) (document : Text) :
    (engine.reach files cache context document next).warnings =
      (engine.reach files cache context document stage).warnings ++
        engine.warned files cache context document stage := by
  rw [reach_next order, step_warnings, warned]

/-- The warnings of a render are those of its stages. The first stage has none. -/
theorem render_warnings_eq {engine : Engine} {context : Context}
    (enabled : engine.config.enabled = true) (heeding : context.ignoresSyntax = false)
    (files : Files) (cache : Cache) (document : Text) :
    let warned := engine.warned files cache context document
    (engine.render files cache context document).warnings =
      warned .macros ++ warned .includes ++ warned .loops ++ warned .conditionals ++
        warned .references := by
  intro warned
  let reached := engine.reach files cache context document
  have stripped : (reached .macros).warnings = (reached .metadata).warnings ++ warned .metadata :=
    reach_warnings (by decide) engine files cache context document
  have expanded : (reached .includes).warnings = (reached .macros).warnings ++ warned .macros :=
    reach_warnings (by decide) engine files cache context document
  have included : (reached .loops).warnings = (reached .includes).warnings ++ warned .includes :=
    reach_warnings (by decide) engine files cache context document
  have unrolled : (reached .conditionals).warnings = (reached .loops).warnings ++ warned .loops :=
    reach_warnings (by decide) engine files cache context document
  have decided : (reached .references).warnings =
      (reached .conditionals).warnings ++ warned .conditionals :=
    reach_warnings (by decide) engine files cache context document
  have last : Stage.all.dropWhile (· ≠ .references) = [.references] := by decide
  have silent : (reached .metadata).warnings ++ warned .metadata = [] := rfl
  rw [render_eq_foldl_reach enabled heeding files cache document .references, last, List.foldl_cons,
    List.foldl_nil, step_warnings, decided, unrolled, included, expanded, stripped, silent,
    List.nil_append]
  rfl

theorem macros_warnings (engine : Engine) (files : Files) (progress : Progress) :
    ∃ definitions usages, Cut.Only Macro.SpellsDefinition progress.text definitions ∧
      Cut.Only Macro.SpellsUsage definitions.gaps usages ∧
      Raised (Macro.Unknown definitions.parts) usages.parts
        (engine.runStage files progress.unlogged .macros).warnings := by
  let definitions := Macro.definition.cut progress.text
  have raised := Raised.rewrite (Macro.raised_emit definitions.parts)
    (Macro.usage.cut definitions.gaps)
  rw [← Macro.expand_eq] at raised
  exact ⟨definitions, _, Macro.reads_definition.only_cut _, Macro.reads_usage.only_cut _, raised⟩

theorem includes_warnings (engine : Engine) (files : Files) (progress : Progress) :
    ∃ cut, Cut.Only Include.Spells progress.text cut ∧
      Include.Leaves engine.config files progress.cache cut
        (engine.step files progress .includes).text
        (engine.runStage files progress.unlogged .includes).warnings := by
  have spelled := (Include.reads_directive.proper_cut progress.text).spelled
  have leaves := Include.leaves_rewrite engine.config files progress.cache
    (Include.directive.cut progress.text)
  refine ⟨_, Include.reads_directive.only_cut progress.text, ?_⟩
  rw [step_includes_text]
  rw [← Include.rewriteWith_replace_fst _ _ _ spelled, ← Include.inline_eq] at leaves ⊢
  exact leaves

theorem loops_warnings (engine : Engine) (files : Files) (progress : Progress) :
    ∃ cut, Cut.Only Loop.Spells progress.text cut ∧
      Raised (Loop.Fails engine.registry progress.context) cut.parts
        (engine.runStage files progress.unlogged .loops).warnings :=
  Raised.substitute Loop.reads_block
    (fun _ => Loop.raised_emit engine.registry progress.context) progress.text

theorem conditionals_warnings (engine : Engine) (files : Files) (progress : Progress) :
    ∃ cut, Cut.Only Conditional.Spells progress.text cut ∧
      Raised (Conditional.Fails engine.registry progress.context) cut.parts
        (engine.runStage files progress.unlogged .conditionals).warnings :=
  Raised.substitute Conditional.reads_block
    (Conditional.raised_emit engine.registry progress.context) progress.text

theorem references_warnings (engine : Engine) (files : Files) (progress : Progress) :
    ∃ cut, Cut.Only Reference.Spells progress.text cut ∧
      Raised (Reference.Fails engine.registry engine.filters progress.context) cut.parts
        (engine.runStage files progress.unlogged .references).warnings :=
  Raised.substitute Reference.reads_reference
    (fun _ => Reference.raised_emit engine.registry engine.filters progress.context) progress.text

/-- The warnings of a render, each laid to the occurrence that it is about. The occurrences of a
stage are the directives in the text that the stage begins with, those of macros the usages in what
the definitions leave of it. -/
def Accounts (engine : Engine) (files : Files) (cache : Cache) (context : Context) (document : Text)
    (warnings : List Event) : Prop :=
  let text stage := (engine.reach files cache context document stage).text
  let recorded := (engine.render files cache context document).context
  ∃ definitions usages includes loops conditionals references,
    Cut.Only Macro.SpellsDefinition (text .macros) definitions ∧
    Cut.Only Macro.SpellsUsage definitions.gaps usages ∧
    Cut.Only Include.Spells (text .includes) includes ∧
    Cut.Only Loop.Spells (text .loops) loops ∧
    Cut.Only Conditional.Spells (text .conditionals) conditionals ∧
    Cut.Only Reference.Spells (text .references) references ∧
    ∃ unknown left unlooped undecided unfilled,
      warnings = unknown ++ left ++ unlooped ++ undecided ++ unfilled ∧
      Raised (Macro.Unknown definitions.parts) usages.parts unknown ∧
      Include.Leaves engine.config files cache includes (text .loops) left ∧
      Raised (Loop.Fails engine.registry recorded) loops.parts unlooped ∧
      Raised (Conditional.Fails engine.registry recorded) conditionals.parts undecided ∧
      Raised (Reference.Fails engine.registry engine.filters recorded) references.parts unfilled

/-- Warnings are sound and complete. Those of a render are one for each usage of an unknown macro,
then one for each include that stays in place, then one for each loop, each conditional and each
reference that fails, in the order of the text, and each names what its own occurrence names. -/
theorem render_warnings {engine : Engine} {context : Context}
    (enabled : engine.config.enabled = true) (heeding : context.ignoresSyntax = false)
    (files : Files) (cache : Cache) (document : Text) :
    engine.Accounts files cache context document
      ((engine.render files cache context document).log.filter Event.isWarning) := by
  let reached := engine.reach files cache context document
  have included : reached .loops = engine.step files (reached .includes) .includes :=
    reach_next (by decide) engine files cache context document
  have cached : (reached .includes).cache = cache := by
    have others : Stage.includes ∉ Stage.all.takeWhile (· ≠ .includes) := by decide
    exact foldl_step_cache engine others files ⟨document, context, cache, []⟩
  have recorded {stage : Stage} (other : stage ≠ .metadata) : (reached stage).context =
      (engine.render files cache context document).context :=
    reach_context enabled heeding files cache document other
  obtain ⟨definitions, usages, defined, used, unknown⟩ :=
    macros_warnings engine files (reached .macros)
  obtain ⟨includes, named, left⟩ := includes_warnings engine files (reached .includes)
  obtain ⟨loops, looped, unlooped⟩ := loops_warnings engine files (reached .loops)
  obtain ⟨conditionals, tested, undecided⟩ :=
    conditionals_warnings engine files (reached .conditionals)
  obtain ⟨references, referred, unfilled⟩ := references_warnings engine files (reached .references)
  rw [cached, ← included] at left
  rw [recorded (by decide)] at unlooped undecided unfilled
  exact ⟨definitions, usages, includes, loops, conditionals, references, defined, used, named,
    looped, tested, referred, _, _, _, _, _,
    render_warnings_eq enabled heeding files cache document, unknown, left, unlooped, undecided,
    unfilled⟩

/-- A namespace that holds every field and hands out no value. -/
def offline : Factory := fun _ =>
  some ⟨fun _ => true, fun field => .error (.lookup field "offline".toList), ∅⟩

/-- A render in which every stage behind the first warns, and a loop over all values does not. -/
theorem render_warnings_offline :
    let target : Target := ⟨"down".toList, "f".toList⟩
    let missing := Include.opener ++ ['a'] ++ Include.closer
    let document := "#gone()#".toList ++ missing ++
      Loop.header ⟨"down".toList, "all".toList⟩ ['x'] ++ Loop.closer ++
      Loop.header target ['x'] ++ Loop.closer ++
      Conditional.header false target ++ Conditional.closer ++
      "{{down.f}}{{request.path || NONE}}{{request.none}}".toList
    let engine := build {} (Registry.empty.add "Down".toList offline) .builtin
    let failed := ProviderError.lookup ['f'] "offline".toList
    let warnings := [.unknownMacro "gone".toList, .includeNotFound ['a'] "./a".toList,
      .loopFailed "down".toList ['f'] failed, .conditionFailed "down".toList ['f'] failed,
      .referenceFailed "down".toList ['f'] failed,
      .filterFailed "request".toList "path".toList (.unknown "NONE".toList)]
    (engine.render .none .empty default document).log.filter Event.isWarning = warnings ∧
      engine.Accounts .none .empty default document warnings := by
  intro target missing document engine failed warnings
  have logged : (engine.render .none .empty default document).log.filter Event.isWarning =
      warnings := by decide +kernel
  refine ⟨logged, ?_⟩
  rw [← logged]
  exact render_warnings rfl rfl .none .empty document

end Engine

end Stencil
