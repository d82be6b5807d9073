import Stencil.Log

set_option autoImplicit false

namespace Stencil

/-- Reads one directive off the front of a text: its parts, and the text behind it. -/
structure Grammar (α : Type) where
  read : Text → Option (α × Text)
  consumes : ∀ {text parts rest}, read text = some (parts, rest) →
    ∃ written, written ≠ [] ∧ text = written ++ rest

inductive Piece (α : Type) where
  | plain (c : Char)
  | directive (written : Text) (parts : α)
deriving DecidableEq, Repr

namespace Piece

variable {α : Type}

def written : Piece α → Text
  | plain c => [c]
  | directive text _ => text

def parts? : Piece α → Option α
  | plain _ => none
  | directive _ parts => some parts

end Piece

namespace Grammar

variable {α σ : Type}

theorem length_lt (g : Grammar α) {text rest : Text} {parts : α}
    (found : g.read text = some (parts, rest)) : rest.length < text.length := by
  obtain ⟨written, nonempty, rfl⟩ := g.consumes found
  have := List.length_pos_iff.2 nonempty
  simp only [List.length_append]
  omega

/-- The scan of a text from left to right. It takes a directive wherever the text from there begins
with one, goes on behind it, and passes over every other character. -/
def pieces (g : Grammar α) : Text → List (Piece α)
  | [] => []
  | c :: text =>
      match _found : g.read (c :: text) with
      | some (parts, rest) =>
          .directive ((c :: text).take (text.length + 1 - rest.length)) parts :: g.pieces rest
      | none => .plain c :: g.pieces text
termination_by text => text.length
decreasing_by
  · exact g.length_lt _found
  · simp

def occursIn (g : Grammar α) : Text → Bool
  | [] => (g.read []).isSome
  | c :: text => (g.read (c :: text)).isSome || g.occursIn text

def hits (g : Grammar α) (text : Text) : List α := (g.pieces text).filterMap Piece.parts?

/-- Replaces each directive that the scan finds, and copies all other characters. -/
def substitute (g : Grammar α) (replace : Text → α → Emission) (text : Text) : Emission :=
  .join ((g.pieces text).map fun piece =>
    match piece with
    | .plain c => .silent [c]
    | .directive written parts => replace written parts)

/-- Replaces the directives among the pieces of a text, handing a state from each to the next. -/
def replacePieces (replace : σ → Text → α → Emission × σ) : σ → List (Piece α) → Emission × σ
  | state, [] => (.empty, state)
  | state, .plain c :: pieces =>
      let (emission, state) := replacePieces replace state pieces
      (.silent [c] ++ emission, state)
  | state, .directive written parts :: pieces =>
      let (first, state) := replace state written parts
      let (emission, state) := replacePieces replace state pieces
      (first ++ emission, state)

def substituteWith (g : Grammar α) (replace : σ → Text → α → Emission × σ) (state : σ)
    (text : Text) : Emission × σ :=
  replacePieces replace state (g.pieces text)

def remove (g : Grammar α) (text : Text) : Text :=
  (g.substitute (fun _ _ => .empty) text).text

@[simp] theorem pieces_nil (g : Grammar α) : g.pieces [] = [] := by
  rw [pieces]

theorem pieces_of_read {g : Grammar α} {text rest : Text} {parts : α}
    (found : g.read text = some (parts, rest)) :
    g.pieces text =
      .directive (text.take (text.length - rest.length)) parts :: g.pieces rest := by
  cases text with
  | nil =>
      obtain ⟨written, nonempty, whole⟩ := g.consumes found
      exact absurd (List.append_eq_nil_iff.1 whole.symm).1 nonempty
  | cons c text =>
      rw [pieces]
      split
      · rename_i other behind again
        rw [found] at again
        cases again
        rfl
      · rename_i absent
        rw [found] at absent
        cases absent

theorem pieces_of_not_read {g : Grammar α} {c : Char} {text : Text}
    (absent : g.read (c :: text) = none) : g.pieces (c :: text) = .plain c :: g.pieces text := by
  rw [pieces]
  split
  · rename_i found
    rw [absent] at found
    cases found
  · rfl

/-- The pieces of a text are a cut of it: put together they are the text again. -/
theorem flatMap_written_pieces (g : Grammar α) (text : Text) :
    (g.pieces text).flatMap Piece.written = text := by
  fun_induction g.pieces text with
  | case1 => rfl
  | case2 c text parts rest found ih =>
      obtain ⟨written, _, whole⟩ := g.consumes found
      have length : text.length + 1 = written.length + rest.length := by
        simpa using congrArg List.length whole
      simp [Piece.written, ih, whole, length]
  | case3 c text absent ih => simp [Piece.written, ih]

/-- The grammar of a single literal, which is not empty. -/
def literal (first : Char) (more : Text) : Grammar Unit where
  read text := ((first :: more).isPrefixOf? text).map fun rest => ((), rest)
  consumes found := by
    obtain ⟨rest, stripped, same⟩ := Option.map_eq_some_iff.1 found
    cases same
    exact ⟨first :: more, by simp, Text.isPrefixOf?_eq_some_iff.1 stripped⟩

/-- Replaces every occurrence of a literal, from left to right and without overlap. -/
def replaceLiteral (first : Char) (more new text : Text) : Text :=
  ((literal first more).substitute (fun _ _ => .silent new) text).text

end Grammar

end Stencil
