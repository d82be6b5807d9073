import Stencil.Proofs.Invocation.Sources
import Stencil.Session

set_option autoImplicit false

namespace Stencil

namespace Engine

variable {engine : Engine} {files : Files} {cache : Cache} {context : Context} {path : Text}

/-- What a render of a file comes to, told by the file alone: an error of the file, or the render of
its text. -/
structure Decides (engine : Engine) (files : Files) (cache : Cache) (context : Context)
    (path : Text) : Prop where
  fails : ∀ error,
    engine.renderFile files cache context path = .error error ↔ files.Fails path error
  succeeds : (∃ progress, engine.renderFile files cache context path = .ok progress) ↔
    ∃ document, files.Holds path document
  renders : ∀ document progress, files.Holds path document →
    engine.renderFile files cache context path = .ok progress →
      let rendered := engine.render files cache context document
      progress.text = rendered.text ∧ progress.context = rendered.context ∧
        progress.cache = rendered.cache ∧ progress.log = .templateRead path :: rendered.log

theorem renderFile_eq_error_iff {error : FileError} :
    engine.renderFile files cache context path = .error error ↔ files.Fails path error := by
  rw [← Files.readText_eq_error_iff]
  unfold renderFile
  split <;> rename_i got <;> simp [got]

theorem renderFile_eq_ok_iff {progress : Progress} :
    engine.renderFile files cache context path = .ok progress ↔
      ∃ document, files.Holds path document ∧
        let rendered := engine.render files cache context document
        progress = { rendered with log := .templateRead path :: rendered.log } := by
  simp only [← Files.readText_eq_ok_iff]
  unfold renderFile
  split <;> rename_i got <;> simp [got, eq_comm]

theorem decides (engine : Engine) (files : Files) (cache : Cache) (context : Context)
    (path : Text) : engine.Decides files cache context path where
  fails _ := renderFile_eq_error_iff
  succeeds := by
    simp only [renderFile_eq_ok_iff]
    constructor
    · rintro ⟨_, document, holds, _⟩
      exact ⟨document, holds⟩
    · rintro ⟨document, holds⟩
      exact ⟨_, document, holds, rfl⟩
  renders document progress holds done := by
    obtain ⟨other, also, rfl⟩ := renderFile_eq_ok_iff.1 done
    rw [also.unique holds]
    exact ⟨rfl, rfl, rfl, rfl⟩

end Engine

def Answer.isFailure : Answer → Bool
  | .unreadable _ => true
  | _ => false

namespace Session

variable {session : Session} {index : Nat} {path : Text}

/-- The actions of a run with their answers. -/
def trace (session : Session) (actions : List Action) : List (Action × Answer) :=
  actions.zip (session.run actions).1

def succeeded (done : Action × Answer) : Bool := !done.2.isFailure

/-- What is left of a run when some of its calls that failed are taken out. -/
structure Spares (session : Session) (actions : List Action) (kept : List (Action × Answer)) :
    Prop where
  among : kept.Sublist (session.trace actions)
  successes : kept.filter succeeded = (session.trace actions).filter succeeded

theorem spares_successes (session : Session) (actions : List Action) :
    session.Spares actions ((session.trace actions).filter succeeded) where
  among := List.filter_sublist
  successes := by simp [List.filter_filter]

theorem trace_cons (session : Session) (action : Action) (actions : List Action) :
    session.trace (action :: actions) =
      (action, (session.perform action).1) :: (session.perform action).2.trace actions := rfl

theorem run_cons (session : Session) (action : Action) (actions : List Action) :
    session.run (action :: actions) =
      ((session.perform action).1 :: ((session.perform action).2.run actions).1,
        ((session.perform action).2.run actions).2) := rfl

theorem perform_renderFile_of_fails {error : FileError}
    (fails : session.files.files.Fails path error) (index : Nat) :
    session.perform (.renderFile index path) = (.unreadable ⟨path, error⟩, session) := by
  simp only [perform, Engine.renderFile_eq_error_iff.2 fails]

theorem perform_renderFile_of_holds {document : Text}
    (holds : session.files.files.Holds path document) (index : Nat) :
    (session.perform (.renderFile index path)).2 =
      (session.perform (.render index document)).2 := by
  have done : session.engine.renderFile session.files.files session.cache (session.context index)
      path = .ok _ := Engine.renderFile_eq_ok_iff.2 ⟨document, holds, rfl⟩
  simp only [perform, done]
  rfl

/-- Only a call on a file without text fails. -/
theorem fails_of_isFailure {action : Action}
    (failed : (session.perform action).1.isFailure = true) :
    ∃ index path error, action = .renderFile index path ∧
      session.files.files.Fails path error := by
  cases action with
  | renderFile index path =>
      simp only [perform] at failed
      split at failed <;> rename_i got
      · cases failed
      · exact ⟨index, path, _, rfl, Engine.renderFile_eq_error_iff.1 got⟩
  | _ => cases failed

theorem perform_of_isFailure {action : Action}
    (failed : (session.perform action).1.isFailure = true) :
    (session.perform action).2 = session := by
  obtain ⟨index, path, error, rfl, fails⟩ := fails_of_isFailure failed
  rw [perform_renderFile_of_fails fails]

theorem run_of_spares {actions : List Action} {kept : List (Action × Answer)}
    (spares : session.Spares actions kept) :
    session.run (kept.map Prod.fst) = (kept.map Prod.snd, (session.run actions).2) := by
  obtain ⟨among, successes⟩ := spares
  induction actions generalizing session kept with
  | nil =>
      cases among
      rfl
  | cons action actions ih =>
      rw [trace_cons] at among successes
      cases among with
      | cons _ among =>
          -- An action that is left out has failed, or there would be fewer successes.
          cases failed : (session.perform action).1.isFailure with
          | false =>
              have fewer := (among.filter succeeded).length_le
              rw [successes, List.filter_cons_of_pos (by simp [succeeded, failed]),
                List.length_cons] at fewer
              omega
          | true =>
              rw [List.filter_cons_of_neg (by simp [succeeded, failed])] at successes
              have behind := ih among successes
              rw [perform_of_isFailure failed] at behind
              rw [behind, run_cons, perform_of_isFailure failed]
      | @cons_cons kept _ _ among =>
          have behind : kept.filter succeeded =
              ((session.perform action).2.trace actions).filter succeeded := by
            rw [List.filter_cons, List.filter_cons] at successes
            split at successes
            · exact (List.cons.inj successes).2
            · exact successes
          rw [List.map_cons, List.map_cons, run_cons, run_cons, ih among behind]

/-- Renders of files are all or nothing. Whether a call fails is told by its file, for every engine
and every request; if it succeeds it does what the render of the text does. In a session a call that
fails changes nothing, so that its run without any of these calls ends in the same state and gives
all other answers. -/
theorem renderFile_all_or_nothing (session : Session) :
    (∀ (engine : Engine) (files : Files) (cache : Cache) (context : Context) (path : Text),
      engine.Decides files cache context path) ∧
    (∀ index path error, session.files.files.Fails path error →
      session.perform (.renderFile index path) = (.unreadable ⟨path, error⟩, session)) ∧
    (∀ index path document, session.files.files.Holds path document →
      (session.perform (.renderFile index path)).2 =
        (session.perform (.render index document)).2) ∧
    ∀ actions kept, session.Spares actions kept →
      session.run (kept.map Prod.fst) = (kept.map Prod.snd, (session.run actions).2) :=
  ⟨Engine.decides, fun index _ _ fails => perform_renderFile_of_fails fails index,
    fun index _ _ holds => perform_renderFile_of_holds holds index,
    fun _ _ => run_of_spares⟩

/-- Calls that fail between others, on a file that is no text and on one that is not there, for an
engine that is switched off. -/
theorem renderFile_all_or_nothing_interleaved :
    let session : Session :=
      ⟨.build { enabled := false } .empty .builtin, ⟨[("t".toList, .file [0xFF])]⟩, .empty,
        [default]⟩
    let write : Action := .write "t".toList (Utf8.encode "{{: [k: v] :}}".toList)
    let actions : List Action := [.renderFile 0 "t".toList, .addMetadata 0 "k".toList "1".toList,
      .renderFile 0 "u".toList, write, .renderFile 0 "t".toList]
    let kept := (session.trace actions).filter succeeded
    session.perform (.renderFile 0 "t".toList) = (.unreadable ⟨"t".toList, .notText⟩, session) ∧
      kept.map Prod.fst =
        [.addMetadata 0 "k".toList "1".toList, write, .renderFile 0 "t".toList] ∧
      session.run (kept.map Prod.fst) = (kept.map Prod.snd, (session.run actions).2) := by
  intro session write actions kept
  have fails : session.files.files.Fails "t".toList .notText :=
    Files.readText_eq_error_iff.1 (by decide +kernel)
  obtain ⟨_, changes, _, spared⟩ := renderFile_all_or_nothing session
  exact ⟨changes 0 _ _ fails, by decide +kernel,
    spared actions kept (spares_successes session actions)⟩

end Session

end Stencil
