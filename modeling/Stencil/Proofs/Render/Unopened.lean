import Stencil.Proofs.Metadata.Record
import Stencil.Proofs.Scan.Openers

set_option autoImplicit false

namespace Stencil

namespace Macro

theorem expandUsages_empty_text (text : Text) : (expandUsages ∅ text).text = text := by
  rw [expandUsages, Grammar.substitute_eq_rewrite]
  have copied (cut : Cut Usage) : (cut.rewrite (emit ∅)).text = cut.whole := by
    induction cut with
    | last gap => rfl
    | next gap written usage more ih =>
        have unknown : emit ∅ written usage = ⟨written, [.unknownMacro usage.name]⟩ := rfl
        simp only [Cut.rewrite, Emission.append_text, Emission.silent_text, unknown, ih, Cut.whole,
          List.append_assoc]
  rw [copied, Grammar.whole_cut]

theorem expand_text_of_unopened {text : Text} (unopened : ¬ opener <:+: text) :
    (expand text).text = text := by
  have undefined := reads_definition.not_occursIn_of_unopened definition_beginsWith_opener unopened
  have unknown : table text = ∅ := by
    rw [table, Grammar.hits_of_not_occursIn undefined]
    rfl
  rw [expand, unknown, Grammar.remove_of_not_occursIn undefined, expandUsages_empty_text]

end Macro

namespace Progress

def unlogged (progress : Progress) : Progress := { progress with log := [] }

end Progress

namespace Engine

theorem unlogged_render {engine : Engine} {context : Context}
    (enabled : engine.config.enabled = true) (heeding : context.ignoresSyntax = false)
    (files : Files) (cache : Cache) (document : Text) :
    (engine.render files cache context document).unlogged =
      (engine.runAll files ⟨document, context, cache, []⟩).unlogged := by
  have unskipped := untraced_render enabled heeding files cache document
  have same := congrArg Progress.unlogged unskipped
  exact same

/-- A stage whose opener does not occur finds nothing of its own, but for the usages of macros. -/
theorem not_applies_of_unopened (stage : Stage) (other : stage ≠ .macros) {text : Text}
    (unopened : ¬ stage.opener <:+: text) : applies stage text = false := by
  cases stage with
  | metadata =>
      exact Metadata.reads_block.not_occursIn_of_unopened Metadata.beginsWith_opener unopened
  | macros => exact absurd rfl other
  | includes =>
      exact Include.reads_directive.not_occursIn_of_unopened Include.beginsWith_opener unopened
  | loops => exact Loop.reads_block.not_occursIn_of_unopened Loop.beginsWith_opener unopened
  | conditionals =>
      exact Conditional.reads_block.not_occursIn_of_unopened Conditional.beginsWith_opener unopened
  | references =>
      exact Reference.reads_reference.not_occursIn_of_unopened Reference.beginsWith_opener unopened

theorem runStage_of_unopened (engine : Engine) (files : Files) {progress : Progress} {stage : Stage}
    (unopened : ¬ stage.opener <:+: progress.text) :
    (engine.runStage files progress stage).unlogged = progress.unlogged := by
  by_cases usages : stage = .macros
  · subst usages
    have copied := Macro.expand_text_of_unopened unopened
    simp only [runStage, Progress.take, Progress.unlogged, copied]
  · rw [runStage_of_not_applies engine files (not_applies_of_unopened stage usages unopened)]

theorem foldl_runStage_of_unopened (engine : Engine) (files : Files) {stages : List Stage}
    {progress : Progress}
    (unopened : ∀ stage ∈ stages, ¬ stage.opener <:+: progress.text) :
    (stages.foldl (engine.runStage files) progress).unlogged = progress.unlogged := by
  induction stages generalizing progress with
  | nil => rfl
  | cons stage stages ih =>
      have here := runStage_of_unopened engine files (unopened stage (by simp))
      have text := congrArg Progress.text here
      simp only [Progress.unlogged] at text
      have behind : ∀ later ∈ stages,
          ¬ later.opener <:+: (engine.runStage files progress stage).text := by
        intro later member
        rw [text]
        exact unopened later (by simp [member])
      rw [List.foldl_cons, ih behind, here]

/-- Where a document without its metadata blocks defines no macro and includes no file, a render
unrolls its loops, decides its conditionals and resolves its references. -/
theorem render_text_of_unexpanded {engine : Engine} {context : Context}
    (enabled : engine.config.enabled = true) (heeding : context.ignoresSyntax = false)
    (files : Files) (cache : Cache) {document : Text}
    (undefined : ¬ Macro.opener <:+: Metadata.strip document)
    (unincluded : ¬ Include.opener <:+: Metadata.strip document) :
    let recorded := context.addAllMetadata (Metadata.entries document)
    let looped := (Loop.unroll engine.registry recorded (Metadata.strip document)).text
    let decided := (Conditional.settle engine.registry recorded looped).text
    (engine.render files cache context document).text =
      (Reference.resolve engine.registry engine.filters recorded decided).text := by
  intro recorded looped decided
  let stripped : Progress := ⟨Metadata.strip document, recorded, cache, []⟩
  let expanded := [Stage.macros, .includes].foldl (engine.runStage files) stripped
  have unopened : ∀ stage ∈ [Stage.macros, .includes], ¬ stage.opener <:+: stripped.text := by
    intro stage member
    simp only [List.mem_cons, List.not_mem_nil, or_false] at member
    rcases member with rfl | rfl
    · exact undefined
    · exact unincluded
  have kept : expanded.unlogged = stripped := foldl_runStage_of_unopened engine files unopened
  have text : expanded.text = Metadata.strip document := by
    have same := congrArg Progress.text kept
    exact same
  have unchanged : expanded.context = recorded := by
    have same := congrArg Progress.context kept
    exact same
  have shown := congrArg Progress.text (unlogged_render enabled heeding files cache document)
  have run : (engine.runAll files ⟨document, context, cache, []⟩).text =
      (Reference.resolve engine.registry engine.filters expanded.context
        (Conditional.settle engine.registry expanded.context
          (Loop.unroll engine.registry expanded.context expanded.text).text).text).text := rfl
  rw [text, unchanged] at run
  exact shown.trans run

/-- Text without openers is left alone. A document that holds neither two braces in a row nor a
brace and a hash comes out of every render as it went in, and the context and the cache stay as
they were. -/
theorem render_of_unopened (engine : Engine) (files : Files) (cache : Cache) (context : Context)
    {document : Text} (unbraced : ¬ ['{', '{'] <:+: document)
    (unhashed : ¬ ['{', '#'] <:+: document) :
    let after := engine.render files cache context document
    after.text = document ∧ after.context = context ∧ after.cache = cache := by
  intro after
  have kept : after.unlogged = ⟨document, context, cache, []⟩ := by
    cases running : engine.runs context with
    | false =>
        have still : after = _ := render_of_not_runs running files cache document
        rw [still]
        rfl
    | true =>
        simp only [runs, Bool.and_eq_true, Bool.not_eq_true'] at running
        have unopened : ∀ stage ∈ Stage.all, ¬ stage.opener <:+: document := by
          intro stage _ inside
          rcases stage.opener_front with braces | hash
          · exact unbraced (braces.isInfix.trans inside)
          · exact unhashed (hash.isInfix.trans inside)
        calc
          after.unlogged = (engine.runAll files ⟨document, context, cache, []⟩).unlogged :=
            unlogged_render running.1 running.2 files cache document
          _ = ⟨document, context, cache, []⟩ := foldl_runStage_of_unopened engine files unopened
  have text := congrArg Progress.text kept
  have same := congrArg Progress.context kept
  have cached := congrArg Progress.cache kept
  exact ⟨text, same, cached⟩

/-- Usages of a macro, closers, single braces and an entry outside of a block. -/
theorem render_of_unopened_usages :
    let document := "#m(\"a\" \"b\")# [k: v]".toList ++ Macro.closer ++ Conditional.closer ++
      ['{', ' ', '}'] ++ "#m()#".toList
    let after := standard.render .none .empty default document
    ¬ ['{', '{'] <:+: document ∧ ¬ ['{', '#'] <:+: document ∧
      after.text = document ∧ after.context = default ∧ after.cache = .empty := by
  intro document after
  have unbraced : ¬ ['{', '{'] <:+: document := by decide +kernel
  have unhashed : ¬ ['{', '#'] <:+: document := by decide +kernel
  exact ⟨unbraced, unhashed, render_of_unopened standard .none .empty default unbraced unhashed⟩

end Engine

end Stencil
