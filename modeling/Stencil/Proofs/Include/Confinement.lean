import Stencil.Proofs.Files.Below
import Stencil.Proofs.Include.Render

set_option autoImplicit false

namespace Stencil

namespace Include

theorem locate_eq_some_iff {config : Config} {path file : Text} :
    locate config path = some file ↔
      ¬ ['/'] <+: path ∧ ¬ Path.HasSegment path ['.', '.'] ∧
        file = Path.join config.includeRoot path := by
  rw [locate, ← and_assoc, ← Path.staysBelow_iff]
  split
  · rename_i below
    simp only [below, true_and, Option.some.injEq]
    exact eq_comm
  · rename_i leaving
    simp [leaving]

variable {config : Config} {first second : Files}

theorem load_eq_of_agreeBelow (agree : first.AgreeBelow config.includeRoot second) (path : Text) :
    load config first path = load config second path := by
  cases located : locate config path with
  | none => simp only [load, located]
  | some file =>
      obtain ⟨relative, descending, rfl⟩ := locate_eq_some_iff.1 located
      obtain ⟨there, read⟩ := agree path relative descending
      simp only [load, located, ← there]
      split
      · rename_i isFile
        rw [read isFile]
      · rfl

theorem replace_eq_of_agreeBelow (agree : first.AgreeBelow config.includeRoot second) :
    replace config first = replace config second := by
  funext cache written path
  simp only [replace, load_eq_of_agreeBelow agree]

end Include

namespace Engine

theorem render_eq_of_agreeBelow {engine : Engine} {first second : Files}
    (agree : first.AgreeBelow engine.config.includeRoot second) (cache : Cache) (context : Context)
    (document : Text) :
    engine.render first cache context document = engine.render second cache context document := by
  cases running : engine.runs context with
  | false => rw [render_of_not_runs running, render_of_not_runs running]
  | true =>
      rw [render_of_runs running, render_of_runs running]
      simp only [step, runStage, Include.inline, Include.replace_eq_of_agreeBelow agree]

/-- Includes never leave the include root. A path is located exactly if it is relative and has no
segment that steps up, and a render depends on no other files: states of the file system that agree
below the root, and trees that have the same directory there, give the same render. -/
theorem render_confined (engine : Engine) (cache : Cache) (context : Context) (document : Text) :
    (∀ path file, Include.locate engine.config path = some file ↔
      ¬ ['/'] <+: path ∧ ¬ Path.HasSegment path ['.', '.'] ∧
        file = Path.join engine.config.includeRoot path) ∧
    (∀ first second : Files, first.AgreeBelow engine.config.includeRoot second →
      engine.render first cache context document = engine.render second cache context document) ∧
    ∀ first second : Tree,
      first.directory? engine.config.includeRoot = second.directory? engine.config.includeRoot →
        engine.render first.files cache context document =
          engine.render second.files cache context document := by
  refine ⟨fun path file => Include.locate_eq_some_iff, ?_, ?_⟩
  · intro first second agree
    exact render_eq_of_agreeBelow agree cache context document
  · intro first second same
    exact render_eq_of_agreeBelow (Files.agreeBelow_of_directory? same) cache context document

/-- A directory beside the include root may come and go. -/
theorem render_confined_beside :
    let site : Text × Tree.Item := ("site".toList, .directory [("a".toList, .file [104, 105])])
    let first : Tree := ⟨[site, ("key".toList, .file [49])]⟩
    let second : Tree := ⟨[site]⟩
    let engine := build { includeRoot := "site".toList } .empty .builtin
    first.files.isFile "key".toList = true ∧ second.files.isFile "key".toList = false ∧
      engine.render first.files .empty default "{{include:a}}{{include:../key}}".toList =
        engine.render second.files .empty default "{{include:a}}{{include:../key}}".toList :=
  ⟨by decide, by decide, (render_confined _ _ _ _).2.2 _ _ rfl⟩

end Engine

end Stencil
