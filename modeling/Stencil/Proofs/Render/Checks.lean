import Stencil.Proofs.Scan.Stages

set_option autoImplicit false

namespace Stencil

namespace Grammar

variable {α σ : Type} {g : Grammar α} {text : Text}

theorem hits_of_not_occursIn (none : g.occursIn text = false) : g.hits text = [] := by
  rw [hits_eq_parts, cut_of_not_occursIn none]
  rfl

theorem remove_of_not_occursIn (none : g.occursIn text = false) : g.remove text = text := by
  rw [remove_eq_gaps, cut_of_not_occursIn none]
  rfl

theorem substitute_of_not_occursIn (none : g.occursIn text = false)
    (replace : Text → α → Emission) : g.substitute replace text = .silent text := by
  rw [substitute_eq_rewrite, cut_of_not_occursIn none]
  rfl

theorem substituteWith_of_not_occursIn (none : g.occursIn text = false)
    (replace : σ → Text → α → Emission × σ) (state : σ) :
    g.substituteWith replace state text = (.silent text, state) := by
  rw [substituteWith_eq_rewriteWith, cut_of_not_occursIn none]
  rfl

end Grammar

theorem Metadata.entries_of_not_occursIn {text : Text} (none : block.occursIn text = false) :
    entries text = [] := by
  rw [entries, Grammar.hits_of_not_occursIn none]
  rfl

/-- Usages are looked for in the text without definitions, which is the text itself where there are
none. -/
theorem Macro.expand_of_not_occursIn {text : Text} (none : occursIn text = false) :
    expand text = .silent text := by
  simp only [occursIn, Bool.or_eq_false_iff] at none
  rw [expand, expandUsages, Grammar.remove_of_not_occursIn none.1,
    Grammar.substitute_of_not_occursIn none.2]

namespace Progress

theorem take_silent (progress : Progress) : progress.take (.silent progress.text) = progress := by
  simp only [take, Emission.silent_text, Emission.silent_log, List.append_nil]

/-- What is seen of a render where traces are not shown. -/
def untraced (progress : Progress) : Progress :=
  { progress with log := progress.log.filter fun event => Level.shownAt .debug event.level }

theorem untraced_stageStarted (progress : Progress) (stage : Stage) :
    (progress.report (.stageStarted stage)).untraced = progress.untraced := by
  simp only [untraced, report, List.filter_append]
  exact congrArg _ (List.append_nil _)

end Progress

namespace Engine

theorem runStage_of_not_applies (engine : Engine) (files : Files) {progress : Progress}
    {stage : Stage} (none : applies stage progress.text = false) :
    engine.runStage files progress stage = progress := by
  cases stage with
  | metadata =>
      have stripped := Grammar.remove_of_not_occursIn none
      have unlisted := Metadata.entries_of_not_occursIn none
      simp only [runStage, Metadata.strip, stripped, unlisted]
      rfl
  | macros =>
      have unchanged := Macro.expand_of_not_occursIn none
      simp only [runStage, unchanged, Progress.take_silent]
  | includes =>
      have unchanged := Grammar.substituteWith_of_not_occursIn none
        (Include.replace engine.config files) progress.cache
      simp only [runStage, Include.inline, unchanged, Progress.take_silent]
  | loops =>
      have unchanged := Grammar.substitute_of_not_occursIn none
        fun _ block => Loop.emit engine.registry progress.context block
      simp only [runStage, Loop.unroll, unchanged, Progress.take_silent]
  | conditionals =>
      have unchanged := Grammar.substitute_of_not_occursIn none
        (Conditional.emit engine.registry progress.context)
      simp only [runStage, Conditional.settle, unchanged, Progress.take_silent]
  | references =>
      have unchanged := Grammar.substitute_of_not_occursIn none
        fun _ reference => Reference.emit engine.registry engine.filters progress.context reference
      simp only [runStage, Reference.resolve, unchanged, Progress.take_silent]

/-- All stages one after another, none of them skipped. -/
def runAll (engine : Engine) (files : Files) (progress : Progress) : Progress :=
  Stage.all.foldl (engine.runStage files) progress

/-- What a stage does depends on no report of an earlier one. -/
theorem untraced_runStage (engine : Engine) (files : Files) (progress : Progress) (stage : Stage) :
    (engine.runStage files progress.untraced stage).untraced =
      (engine.runStage files progress stage).untraced := by
  have filtered (events : List Event) (keep : Event → Bool) :
      (events.filter keep).filter keep = events.filter keep := by
    simp only [List.filter_filter, Bool.and_self]
  cases stage <;>
    simp only [runStage, Progress.untraced, Progress.take, List.filter_append, filtered]

theorem untraced_step (engine : Engine) (files : Files) (progress : Progress) (stage : Stage) :
    (engine.step files progress stage).untraced =
      (engine.runStage files progress stage).untraced := by
  cases found : applies stage progress.text with
  | true =>
      calc
        (engine.step files progress stage).untraced =
            (engine.runStage files (progress.report (.stageStarted stage)) stage).untraced := by
          simp only [step, found, ↓reduceIte]
        _ = (engine.runStage files progress stage).untraced := by
          rw [← untraced_runStage, Progress.untraced_stageStarted, untraced_runStage]
  | false =>
      rw [runStage_of_not_applies engine files found]
      simp only [step, found, Bool.false_eq_true, ↓reduceIte]

theorem untraced_foldl_step (engine : Engine) (files : Files) (stages : List Stage)
    {progress other : Progress} (same : progress.untraced = other.untraced) :
    (stages.foldl (engine.step files) progress).untraced =
      (stages.foldl (engine.runStage files) other).untraced := by
  induction stages generalizing progress other with
  | nil => exact same
  | cons stage stages ih =>
      apply ih
      calc
        (engine.step files progress stage).untraced =
            (engine.runStage files progress.untraced stage).untraced := by
          rw [untraced_step, untraced_runStage]
        _ = (engine.runStage files other stage).untraced := by
          rw [same, untraced_runStage]

theorem untraced_render {engine : Engine} {context : Context}
    (enabled : engine.config.enabled = true) (heeding : context.ignoresSyntax = false)
    (files : Files) (cache : Cache) (document : Text) :
    (engine.render files cache context document).untraced =
      (engine.runAll files ⟨document, context, cache, []⟩).untraced := by
  have run : engine.render files cache context document =
      Stage.all.foldl (engine.step files) ⟨document, context, cache, []⟩ := by
    simp only [render, enabled, heeding, Bool.not_true, Bool.false_eq_true, ↓reduceIte]
  rw [run]
  exact untraced_foldl_step engine files Stage.all rfl

/-- The check before a stage cannot be seen. A stage that it turns away would leave the text, the
metadata, the cache and the reports alone, and a render gives the text, the context, the cache and
the warnings and remarks that running every stage gives. -/
theorem stage_checks_transparent (engine : Engine) (files : Files) :
    (∀ (progress : Progress) (stage : Stage), applies stage progress.text = false →
      engine.runStage files progress stage = progress) ∧
    ∀ (cache : Cache) (context : Context) (document : Text), engine.config.enabled = true →
      context.ignoresSyntax = false →
        (engine.render files cache context document).untraced =
          (engine.runAll files ⟨document, context, cache, []⟩).untraced := by
  constructor
  · intro progress stage none
    exact runStage_of_not_applies engine files none
  · intro cache context document enabled heeding
    exact untraced_render enabled heeding files cache document

/-- A conditional that is none in the document, and is one when its macro is expanded. -/
theorem stage_checks_transparent_expanded :
    let test := Conditional.opener ++ "meta.{{key}}".toList ++ ['}'] ++ Conditional.closer
    let document := Macro.opener ++ "when key".toList ++ ['}'] ++ test ++ Macro.closer ++
      "#when(\"k\")#".toList
    let start : Progress := ⟨document, default, .empty, []⟩
    applies .conditionals document = false ∧
      standard.runStage .none start .conditionals = start ∧
      (standard.render .none .empty default document).untraced =
        (standard.runAll .none start).untraced :=
  ⟨by decide, (stage_checks_transparent _ _).1 _ _ (by decide),
    (stage_checks_transparent _ _).2 _ _ _ rfl rfl⟩

end Engine

end Stencil
