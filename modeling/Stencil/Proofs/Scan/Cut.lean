import Stencil.Grammar

/-
Texts cut at the directives of a grammar. A grammar is described here by the texts that write its
directives, and not by a reader. A reader that stops at the shortest of them scans every text by
the one cut there is.
-/

set_option autoImplicit false

namespace Stencil

/-- Which texts write a directive, and with which parts. -/
abbrev Spelling (α : Type) := α → Text → Prop

namespace Spelling

variable {α : Type}

def Admits (spells : Spelling α) (text : Text) : Prop := ∃ parts, spells parts text

/-- A text of the grammar none of whose proper beginnings is one. -/
def Shortest (spells : Spelling α) (parts : α) (written : Text) : Prop :=
  spells parts written ∧
    ∀ front behind, written = front ++ behind → behind ≠ [] → ¬ spells.Admits front

/-- No beginning of the text belongs to the grammar. -/
def Absent (spells : Spelling α) (text : Text) : Prop :=
  ∀ front behind, text = front ++ behind → ¬ spells.Admits front

/-- No text of the grammar begins inside a gap, however far into the rest it would reach. -/
def Clear (spells : Spelling α) (gap rest : Text) : Prop :=
  ∀ before inside, gap = before ++ inside → inside ≠ [] → spells.Absent (inside ++ rest)

@[simp] theorem clear_nil (spells : Spelling α) (rest : Text) : spells.Clear [] rest := by
  intro before inside whole nonempty
  exact absurd (List.append_eq_nil_iff.1 whole.symm).2 nonempty

theorem clear_cons (spells : Spelling α) (c : Char) (gap rest : Text) :
    spells.Clear (c :: gap) rest ↔ spells.Absent (c :: gap ++ rest) ∧ spells.Clear gap rest := by
  constructor
  · intro clear
    refine ⟨clear [] (c :: gap) rfl (by simp), ?_⟩
    intro before inside whole nonempty
    exact clear (c :: before) inside (by simp [whole]) nonempty
  · rintro ⟨here, clear⟩ before inside whole nonempty
    cases before with
    | nil =>
        rw [List.nil_append] at whole
        rw [← whole]
        exact here
    | cons head before => exact clear before inside (List.cons.inj whole).2 nonempty

end Spelling

/-- A text as a gap, a directive, a gap, a directive and so on up to a last gap. -/
inductive Cut (α : Type) where
  | last (gap : Text)
  | next (gap written : Text) (parts : α) (more : Cut α)

namespace Cut

variable {α σ : Type}

def whole : Cut α → Text
  | last gap => gap
  | next gap written _ more => gap ++ written ++ more.whole

def gaps : Cut α → Text
  | last gap => gap
  | next gap _ _ more => gap ++ more.gaps

def stretches : Cut α → List Text
  | last gap => [gap]
  | next gap _ _ more => gap :: more.stretches

/-- The directives, as they are written and with their parts. -/
def directives : Cut α → List (Text × α)
  | last _ => []
  | next _ written parts more => (written, parts) :: more.directives

def parts (cut : Cut α) : List α := cut.directives.map Prod.snd

/-- Copies the gaps and puts in a replacement for each directive. -/
def rewrite (replace : Text → α → Emission) : Cut α → Emission
  | last gap => .silent gap
  | next gap written parts more =>
      .silent gap ++ (replace written parts ++ more.rewrite replace)

/-- Copies the gaps and puts in a text for each directive. -/
def fill (replace : Text → α → Text) : Cut α → Text
  | last gap => gap
  | next gap written parts more => gap ++ (replace written parts ++ more.fill replace)

/-- The same with a state that goes from each replacement to the next. -/
def rewriteWith (replace : σ → Text → α → Emission × σ) (state : σ) : Cut α → Emission × σ
  | last gap => (.silent gap, state)
  | next gap written parts more =>
      let first := replace state written parts
      let others := more.rewriteWith replace first.2
      (.silent gap ++ (first.1 ++ others.1), others.2)

/-- Directives are written as short as can be, and none begins inside a gap. -/
def Proper (spells : Spelling α) : Cut α → Prop
  | last gap => spells.Clear gap []
  | next gap written parts more =>
      spells.Clear gap (written ++ more.whole) ∧ spells.Shortest parts written ∧ more.Proper spells

def Spelled (spells : Spelling α) (cut : Cut α) : Prop :=
  ∀ written parts, (written, parts) ∈ cut.directives → spells parts written

/-- A proper cut of a text, and the only one. -/
structure Only (spells : Spelling α) (text : Text) (cut : Cut α) : Prop where
  proper : cut.Proper spells
  whole : cut.whole = text
  unique : ∀ other, other.Proper spells → other.whole = text → other = cut

def push (c : Char) : Cut α → Cut α
  | last gap => last (c :: gap)
  | next gap written parts more => next (c :: gap) written parts more

def ofPieces : List (Piece α) → Cut α
  | [] => last []
  | .plain c :: pieces => (ofPieces pieces).push c
  | .directive written parts :: pieces => next [] written parts (ofPieces pieces)

@[simp] theorem whole_push (c : Char) (cut : Cut α) : (cut.push c).whole = c :: cut.whole := by
  cases cut <;> rfl

@[simp] theorem directives_push (c : Char) (cut : Cut α) :
    (cut.push c).directives = cut.directives := by
  cases cut <;> rfl

@[simp] theorem rewrite_push (replace : Text → α → Emission) (c : Char) (cut : Cut α) :
    (cut.push c).rewrite replace = .silent [c] ++ cut.rewrite replace := by
  cases cut <;> rfl

@[simp] theorem fill_push (replace : Text → α → Text) (c : Char) (cut : Cut α) :
    (cut.push c).fill replace = c :: cut.fill replace := by
  cases cut <;> rfl

@[simp] theorem rewriteWith_push (replace : σ → Text → α → Emission × σ) (state : σ) (c : Char)
    (cut : Cut α) :
    (cut.push c).rewriteWith replace state =
      (.silent [c] ++ (cut.rewriteWith replace state).1, (cut.rewriteWith replace state).2) := by
  cases cut <;> rfl

theorem proper_push (spells : Spelling α) (c : Char) (cut : Cut α) :
    (cut.push c).Proper spells ↔ spells.Absent (c :: cut.whole) ∧ cut.Proper spells := by
  cases cut with
  | last gap => simp only [push, Proper, spells.clear_cons, whole, List.append_nil]
  | next gap written parts more =>
      simp only [push, Proper, spells.clear_cons, whole, and_assoc, List.cons_append,
        List.append_assoc]

theorem Spelled.head {spells : Spelling α} {gap written : Text} {parts : α} {more : Cut α}
    (spelled : (next gap written parts more).Spelled spells) : spells parts written :=
  spelled written parts (by simp [directives])

theorem Spelled.tail {spells : Spelling α} {gap written : Text} {parts : α} {more : Cut α}
    (spelled : (next gap written parts more).Spelled spells) : more.Spelled spells :=
  fun written parts member => spelled written parts (by simp [directives, member])

theorem Proper.spelled {spells : Spelling α} {cut : Cut α} (proper : cut.Proper spells) :
    cut.Spelled spells := by
  induction cut with
  | last gap =>
      intro written parts member
      cases member
  | next gap first found more ih =>
      intro written parts member
      rcases List.mem_cons.1 member with same | behind
      · cases same
        exact proper.2.1.1
      · exact ih proper.2.2 written parts behind

@[simp] theorem whole_ofPieces (pieces : List (Piece α)) :
    (ofPieces pieces).whole = pieces.flatMap Piece.written := by
  induction pieces with
  | nil => rfl
  | cons piece pieces ih => cases piece <;> simp [ofPieces, whole, Piece.written, ih]

theorem directives_ofPieces (pieces : List (Piece α)) :
    (ofPieces pieces).directives = pieces.filterMap fun
      | .plain _ => none
      | .directive written parts => some (written, parts) := by
  induction pieces with
  | nil => rfl
  | cons piece pieces ih => cases piece <;> simp [ofPieces, directives, ih]

/-- Replacing by nothing leaves the gaps. -/
theorem rewrite_empty (cut : Cut α) : (cut.rewrite fun _ _ => .empty).text = cut.gaps := by
  induction cut with
  | last gap => rfl
  | next gap written parts more ih =>
      simp only [rewrite, gaps, Emission.append_text, ih]
      rfl

/-- Replacements that report nothing only put in their texts. -/
theorem rewrite_silent (replace : Text → α → Text) (cut : Cut α) :
    (cut.rewrite fun written parts => .silent (replace written parts)) =
      .silent (cut.fill replace) := by
  induction cut with
  | last gap => rfl
  | next gap written parts more ih =>
      rw [rewrite, ih]
      rfl

/-- Only the replacements of directives that are there matter. -/
theorem rewrite_congr {first second : Text → α → Emission} {cut : Cut α}
    (same : ∀ written parts, (written, parts) ∈ cut.directives →
      first written parts = second written parts) :
    cut.rewrite first = cut.rewrite second := by
  induction cut with
  | last gap => rfl
  | next gap written parts more ih =>
      have here := same written parts (by simp [directives])
      have behind := ih fun written parts member =>
        same written parts (by simp [directives, member])
      simp only [rewrite, here, behind]

end Cut

namespace Grammar

variable {α σ : Type} {g : Grammar α} {spells : Spelling α}

/-- A reader for a grammar: it reads nothing but texts of it, and stops no later than any of them
that it could have read. -/
structure Reads (g : Grammar α) (spells : Spelling α) : Prop where
  sound : ∀ {text parts rest}, g.read text = some (parts, rest) →
    ∃ written, spells parts written ∧ text = written ++ rest
  complete : ∀ {parts written} (rest : Text), spells parts written →
    ∃ found behind, g.read (written ++ rest) = some (found, behind) ∧
      (rest.length < behind.length ∨ found = parts ∧ behind = rest)

/-- What is read off the front of a text is the shortest beginning that the grammar admits. -/
theorem Reads.read_eq_some_iff (reads : g.Reads spells) {text rest : Text} {parts : α} :
    g.read text = some (parts, rest) ↔
      ∃ written, spells.Shortest parts written ∧ text = written ++ rest := by
  constructor
  · intro found
    obtain ⟨written, spelled, whole⟩ := reads.sound found
    refine ⟨written, ⟨spelled, ?_⟩, whole⟩
    rintro front behind split nonempty ⟨other, admitted⟩
    obtain ⟨_, _, again, which⟩ := reads.complete (behind ++ rest) admitted
    rw [← List.append_assoc, ← split, ← whole, found, Option.some.injEq, Prod.mk.injEq] at again
    obtain ⟨rfl, rfl⟩ := again
    have positive := List.length_pos_iff.2 nonempty
    have length : (behind ++ rest).length = behind.length + rest.length := List.length_append
    rcases which with longer | ⟨_, same⟩
    · omega
    · have := congrArg List.length same
      omega
  · rintro ⟨written, ⟨spelled, shortest⟩, rfl⟩
    obtain ⟨found, behind, read, which⟩ := reads.complete rest spelled
    rcases which with longer | ⟨rfl, rfl⟩
    · obtain ⟨front, admitted, split⟩ := reads.sound read
      rcases List.append_eq_append_iff.1 split with ⟨more, _, remainder⟩ | ⟨more, whole, remainder⟩
      · have length := congrArg List.length remainder
        simp only [List.length_append] at length
        omega
      · have nonempty : more ≠ [] := by
          rintro rfl
          have length := congrArg List.length remainder
          simp only [List.nil_append] at length
          omega
        exact absurd ⟨found, admitted⟩ (shortest front more whole nonempty)
    · exact read

theorem Reads.shortest_of_read (reads : g.Reads spells) {written rest : Text} {parts : α}
    (found : g.read (written ++ rest) = some (parts, rest)) : spells.Shortest parts written := by
  obtain ⟨other, shortest, whole⟩ := reads.read_eq_some_iff.1 found
  rwa [List.append_cancel_right whole]

theorem Reads.read_eq_none_iff (reads : g.Reads spells) {text : Text} :
    g.read text = none ↔ spells.Absent text := by
  constructor
  · rintro none front behind rfl ⟨parts, spelled⟩
    obtain ⟨found, rest, read, _⟩ := reads.complete behind spelled
    rw [none] at read
    cases read
  · intro absent
    cases read : g.read text with
    | none => rfl
    | some found =>
        obtain ⟨written, spelled, whole⟩ := reads.sound read
        exact absurd ⟨found.1, spelled⟩ (absent written found.2 whole)

def cut (g : Grammar α) (text : Text) : Cut α := .ofPieces (g.pieces text)

@[simp] theorem cut_nil (g : Grammar α) : g.cut [] = .last [] := by
  simp [cut, Cut.ofPieces]

theorem cut_of_read {written rest : Text} {parts : α}
    (found : g.read (written ++ rest) = some (parts, rest)) :
    g.cut (written ++ rest) = .next [] written parts (g.cut rest) := by
  have front : (written ++ rest).take ((written ++ rest).length - rest.length) = written := by simp
  rw [cut, pieces_of_read found, front]
  rfl

theorem cut_of_not_read {c : Char} {text : Text} (absent : g.read (c :: text) = none) :
    g.cut (c :: text) = (g.cut text).push c := by
  rw [cut, pieces_of_not_read absent]
  rfl

@[simp] theorem whole_cut (g : Grammar α) (text : Text) : (g.cut text).whole = text := by
  rw [cut, Cut.whole_ofPieces, flatMap_written_pieces]

theorem Reads.proper_cut (reads : g.Reads spells) (text : Text) : (g.cut text).Proper spells := by
  induction text using pieces.induct (g := g) with
  | case1 => simp [Cut.Proper]
  | case2 c text parts rest found ih =>
      obtain ⟨written, shortest, whole⟩ := reads.read_eq_some_iff.1 found
      rw [whole] at found ⊢
      rw [cut_of_read found]
      exact ⟨spells.clear_nil _, shortest, ih⟩
  | case3 c text absent ih =>
      rw [cut_of_not_read absent, Cut.proper_push, whole_cut]
      exact ⟨reads.read_eq_none_iff.1 absent, ih⟩

theorem Reads.cut_push (reads : g.Reads spells) {c : Char} {cut : Cut α}
    (absent : spells.Absent (c :: cut.whole)) (same : g.cut cut.whole = cut) :
    g.cut (cut.push c).whole = cut.push c := by
  rw [Cut.whole_push, cut_of_not_read (reads.read_eq_none_iff.2 absent), same]

/-- Every proper cut is the one the scan makes. -/
theorem Reads.cut_whole (reads : g.Reads spells) {cut : Cut α} (proper : cut.Proper spells) :
    g.cut cut.whole = cut := by
  -- Within a cut the induction goes through the first gap character by character.
  induction cut with
  | last gap =>
      induction gap with
      | nil => exact cut_nil g
      | cons c gap ih =>
          obtain ⟨absent, proper⟩ := (Cut.proper_push spells c (.last gap)).1 proper
          exact reads.cut_push absent (ih proper)
  | next gap written parts more ih =>
      induction gap with
      | nil =>
          have read : g.read (written ++ more.whole) = some (parts, more.whole) :=
            reads.read_eq_some_iff.2 ⟨written, proper.2.1, rfl⟩
          have whole : (Cut.next [] written parts more).whole = written ++ more.whole := rfl
          rw [whole, cut_of_read read, ih proper.2.2]
      | cons c gap inner =>
          obtain ⟨absent, proper⟩ :=
            (Cut.proper_push spells c (.next gap written parts more)).1 proper
          exact reads.cut_push absent (inner proper)

theorem Reads.only_cut (reads : g.Reads spells) (text : Text) :
    Cut.Only spells text (g.cut text) where
  proper := reads.proper_cut text
  whole := whole_cut g text
  unique := by
    rintro other proper rfl
    exact (reads.cut_whole proper).symm

/-- A scan that finds nothing makes one gap of the text. -/
theorem cut_of_not_occursIn {text : Text} (none : g.occursIn text = false) :
    g.cut text = .last text := by
  induction text with
  | nil => exact cut_nil g
  | cons c text ih =>
      simp only [occursIn, Bool.or_eq_false_iff, Option.isSome_eq_false_iff,
        Option.isNone_iff_eq_none] at none
      rw [cut_of_not_read none.1, ih none.2]
      rfl

theorem hits_eq_parts (g : Grammar α) (text : Text) : g.hits text = (g.cut text).parts := by
  rw [hits, cut, Cut.parts, Cut.directives_ofPieces, List.map_filterMap]
  congr 1
  funext piece
  cases piece <;> rfl

theorem substitute_eq_rewrite (g : Grammar α) (replace : Text → α → Emission) (text : Text) :
    g.substitute replace text = (g.cut text).rewrite replace := by
  rw [substitute, cut]
  induction g.pieces text with
  | nil => rfl
  | cons piece pieces ih =>
      cases piece with
      | plain c => simp only [List.map_cons, Emission.join_cons, ih, Cut.ofPieces, Cut.rewrite_push]
      | directive written parts =>
          simp only [List.map_cons, Emission.join_cons, ih, Cut.ofPieces, Cut.rewrite]
          rfl

theorem substituteWith_eq_rewriteWith (g : Grammar α) (replace : σ → Text → α → Emission × σ)
    (state : σ) (text : Text) :
    g.substituteWith replace state text = (g.cut text).rewriteWith replace state := by
  rw [substituteWith, cut]
  induction g.pieces text generalizing state with
  | nil => rfl
  | cons piece pieces ih =>
      cases piece with
      | plain c => simp only [replacePieces, ih, Cut.ofPieces, Cut.rewriteWith_push]
      | directive written parts =>
          simp only [replacePieces, ih, Cut.ofPieces, Cut.rewriteWith]
          rfl

theorem remove_eq_gaps (g : Grammar α) (text : Text) : g.remove text = (g.cut text).gaps := by
  rw [remove, substitute_eq_rewrite, Cut.rewrite_empty]

end Grammar

end Stencil
