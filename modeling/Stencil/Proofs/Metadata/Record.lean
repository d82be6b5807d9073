import Stencil.Proofs.Metadata.Entries
import Stencil.Proofs.Render.Checks
import Stencil.Proofs.Render.Phases

set_option autoImplicit false

namespace Stencil.Engine

theorem runStage_context (engine : Engine) (files : Files) (progress : Progress) {stage : Stage}
    (other : stage ≠ .metadata) :
    (engine.runStage files progress stage).context = progress.context := by
  cases stage with
  | metadata => exact absurd rfl other
  | _ => rfl

/-- Stages keep the context one after another if each of them does, the first of a render apart. -/
theorem foldl_context {advance : Progress → Stage → Progress}
    (keeps : ∀ progress stage, stage ≠ .metadata →
      (advance progress stage).context = progress.context)
    {stages : List Stage} (others : .metadata ∉ stages) (progress : Progress) :
    (stages.foldl advance progress).context = progress.context := by
  induction stages generalizing progress with
  | nil => rfl
  | cons stage stages ih =>
      simp only [List.mem_cons, not_or] at others
      have here := keeps progress stage (Ne.symm others.1)
      rw [List.foldl_cons, ih others.2, here]

theorem runAll_context (engine : Engine) (files : Files) (progress : Progress) :
    (engine.runAll files progress).context =
      progress.context.addAllMetadata (Metadata.entries progress.text) := by
  let later : List Stage := [.macros, .includes, .loops, .conditionals, .references]
  calc
    (engine.runAll files progress).context =
        (later.foldl (engine.runStage files) (engine.runStage files progress .metadata)).context :=
      rfl
    _ = (engine.runStage files progress .metadata).context :=
      foldl_context (fun progress _ => runStage_context engine files progress) (by decide) _
    _ = progress.context.addAllMetadata (Metadata.entries progress.text) := rfl

theorem render_context {engine : Engine} {context : Context}
    (enabled : engine.config.enabled = true) (heeding : context.ignoresSyntax = false)
    (files : Files) (cache : Cache) (document : Text) :
    (engine.render files cache context document).context =
      context.addAllMetadata (Metadata.entries document) := by
  have unskipped := untraced_render enabled heeding files cache document
  have same := congrArg Progress.context unskipped
  exact same.trans (runAll_context engine files ⟨document, context, cache, []⟩)

theorem render_metadata_updated {engine : Engine} {context : Context}
    (enabled : engine.config.enabled = true) (heeding : context.ignoresSyntax = false)
    (files : Files) (cache : Cache) (document : Text) :
    context.metadata.Updated (Metadata.entries document)
      (engine.render files cache context document).context.metadata := by
  rw [render_context enabled heeding]
  exact context.metadata.updated_insertAll (Metadata.entries document)

theorem render_context_idle {engine : Engine} {context : Context}
    (idle : engine.config.enabled = false ∨ context.ignoresSyntax = true) (files : Files)
    (cache : Cache) (document : Text) :
    (engine.render files cache context document).context = context := by
  have still : engine.runs context = false := by
    rcases idle with disabled | ignoring
    · simp [runs, disabled]
    · simp [runs, ignoring]
  rw [render_of_not_runs still]

/-- No render changes a context but for its metadata. -/
theorem render_context_frame (engine : Engine) (files : Files) (cache : Cache) (context : Context)
    (document : Text) :
    (engine.render files cache context document).context =
      { context with
        metadata := (engine.render files cache context document).context.metadata } := by
  cases running : engine.runs context with
  | false => rw [render_of_not_runs running]
  | true =>
      simp only [runs, Bool.and_eq_true, Bool.not_eq_true'] at running
      rw [render_context running.1 running.2]
      rfl

/-- The metadata after a render is that of before with the entries of the document written to it, in
order, whatever the engine, the files and the cache are and whatever other stages make of the
document. Engines that start with the same metadata end with the same. Nothing else of a context
changes, and where no stage is run nothing does. -/
theorem render_records_document (document : Text) :
    ∃ entries, Metadata.Lists document entries ∧
      (∀ (engine : Engine) (files : Files) (cache : Cache) (context : Context),
        engine.config.enabled = true → context.ignoresSyntax = false →
          context.metadata.Updated entries
            (engine.render files cache context document).context.metadata) ∧
      (∀ (first second : Engine) (files elsewhere : Files) (cache kept : Cache)
          (context other : Context),
        first.config.enabled = true → second.config.enabled = true →
        context.ignoresSyntax = false → other.ignoresSyntax = false →
        context.metadata = other.metadata →
          (first.render files cache context document).context.metadata =
            (second.render elsewhere kept other document).context.metadata) ∧
      ∀ (engine : Engine) (files : Files) (cache : Cache) (context : Context),
        let after := (engine.render files cache context document).context
        after = { context with metadata := after.metadata } ∧
          (engine.config.enabled = false ∨ context.ignoresSyntax = true →
            after.metadata = context.metadata) := by
  refine ⟨Metadata.entries document, Metadata.lists_entries document, ?_, ?_, ?_⟩
  · intro engine files cache context enabled heeding
    exact render_metadata_updated enabled heeding files cache document
  · intro first second files elsewhere cache kept context other enabled active heeding attending
      same
    have one := render_metadata_updated enabled heeding files cache document
    have two := render_metadata_updated active attending elsewhere kept document
    rw [← same] at two
    exact one.unique two
  · intro engine files cache context
    refine ⟨render_context_frame engine files cache context document, ?_⟩
    intro idle
    rw [render_context_idle idle]

/-- A malformed entry, a repeated key, and a block that only a macro makes. -/
theorem render_records_document_expanded :
    let listed := Metadata.opener ++ "[k: 1][: none][author:2][k:  3]".toList ++ Metadata.closer
    let body := "{{open}}[k: 4]".toList ++ Metadata.closer
    let usage := "#say(\"".toList ++ Metadata.opener ++ "\")#".toList
    let document :=
      listed ++ Macro.opener ++ "say open".toList ++ ['}'] ++ body ++ Macro.closer ++ usage
    let entries := [("k".toList, "1".toList), ("author".toList, "2".toList),
      ("k".toList, " 3".toList)]
    let bare := build { builtinProviders := false, cacheIncludes := false } .empty .empty
    let disabled := build { enabled := false } .empty .builtin
    let after := (standard.render .none .empty default document).context.metadata
    (∅ : Table Text).Updated entries after ∧
      after = (bare.render .none .empty (.new []) document).context.metadata ∧
      (disabled.render .none .empty default document).context.metadata = ∅ := by
  intro listed body usage document entries bare disabled after
  obtain ⟨found, lists, updated, same, others⟩ := render_records_document document
  have counted : found = entries := by
    rw [lists.eq_entries]
    decide +kernel
  have recorded := updated standard .none .empty default rfl rfl
  rw [counted] at recorded
  exact ⟨recorded, same _ _ _ _ _ _ _ _ rfl rfl rfl rfl rfl, (others _ _ _ _).2 (Or.inl rfl)⟩

end Stencil.Engine
