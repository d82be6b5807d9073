import Stencil.Proofs.Scan.Readers

set_option autoImplicit false

namespace Stencil

theorem Emission.silent_append (front text : Text) :
    silent (front ++ text) = silent front ++ silent text := rfl

namespace Cut

variable {α : Type}

def prepend (front : Text) : Cut α → Cut α
  | last gap => last (front ++ gap)
  | next gap written parts more => next (front ++ gap) written parts more

/-- Two cuts side by side. The last gap of the first and the first gap of the second become one. -/
def append : Cut α → Cut α → Cut α
  | last gap, other => other.prepend gap
  | next gap written parts more, other => next gap written parts (more.append other)

@[simp] theorem prepend_nil (cut : Cut α) : cut.prepend [] = cut := by
  cases cut <;> rfl

theorem prepend_cons (c : Char) (front : Text) (cut : Cut α) :
    cut.prepend (c :: front) = (cut.prepend front).push c := by
  cases cut <;> rfl

@[simp] theorem parts_prepend (front : Text) (cut : Cut α) :
    (cut.prepend front).parts = cut.parts := by
  cases cut <;> rfl

theorem gaps_prepend (front : Text) (cut : Cut α) :
    (cut.prepend front).gaps = front ++ cut.gaps := by
  cases cut with
  | last gap => rfl
  | next gap written parts more => exact List.append_assoc front gap more.gaps

theorem rewrite_prepend (replace : Text → α → Emission) (front : Text) (cut : Cut α) :
    (cut.prepend front).rewrite replace = .silent front ++ cut.rewrite replace := by
  cases cut with
  | last gap => exact Emission.silent_append front gap
  | next gap written parts more =>
      simp only [prepend, rewrite, Emission.silent_append, Emission.append_assoc]

theorem fill_prepend (replace : Text → α → Text) (front : Text) (cut : Cut α) :
    (cut.prepend front).fill replace = front ++ cut.fill replace := by
  cases cut with
  | last gap => rfl
  | next gap written parts more => exact List.append_assoc front gap _

theorem push_append (c : Char) (first second : Cut α) :
    (first.push c).append second = (first.append second).push c := by
  cases first with
  | last gap => exact prepend_cons c gap second
  | next gap written parts more => rfl

theorem rewrite_append (replace : Text → α → Emission) (first second : Cut α) :
    (first.append second).rewrite replace = first.rewrite replace ++ second.rewrite replace := by
  induction first with
  | last gap => exact rewrite_prepend replace gap second
  | next gap written parts more ih =>
      simp only [append, rewrite, ih, Emission.append_assoc]

theorem rewriteWith_prepend {σ : Type} (replace : σ → Text → α → Emission × σ) (state : σ)
    (front : Text) (cut : Cut α) :
    (cut.prepend front).rewriteWith replace state =
      (.silent front ++ (cut.rewriteWith replace state).1, (cut.rewriteWith replace state).2) := by
  cases cut with
  | last gap => rfl
  | next gap written parts more =>
      simp only [prepend, rewriteWith, Emission.silent_append, Emission.append_assoc]

theorem rewriteWith_append {σ : Type} (replace : σ → Text → α → Emission × σ) (state : σ)
    (first second : Cut α) :
    (first.append second).rewriteWith replace state =
      let ahead := first.rewriteWith replace state
      let behind := second.rewriteWith replace ahead.2
      (ahead.1 ++ behind.1, behind.2) := by
  induction first generalizing state with
  | last gap => exact rewriteWith_prepend replace state gap second
  | next gap written parts more ih =>
      simp only [append, rewriteWith, ih, Emission.append_assoc]

theorem gaps_append (first second : Cut α) :
    (first.append second).gaps = first.gaps ++ second.gaps := by
  rw [← rewrite_empty, rewrite_append, Emission.append_text, rewrite_empty, rewrite_empty]

theorem parts_append (first second : Cut α) :
    (first.append second).parts = first.parts ++ second.parts := by
  induction first with
  | last gap => exact parts_prepend gap second
  | next gap written parts more ih => exact congrArg (parts :: ·) ih

end Cut

namespace Spelling

variable {α : Type} {spells : Spelling α}

theorem Clear.append {gap more rest : Text} (ahead : spells.Clear gap (more ++ rest))
    (behind : spells.Clear more rest) : spells.Clear (gap ++ more) rest := by
  induction gap with
  | nil => exact behind
  | cons c gap ih =>
      rw [clear_cons] at ahead
      rw [List.cons_append, clear_cons, ← List.cons_append, List.append_assoc]
      exact ⟨ahead.1, ih ahead.2⟩

/-- Every text of the grammar begins with the character. -/
def OpensWith (spells : Spelling α) (c : Char) : Prop :=
  ∀ parts written, spells parts written → ∃ more, written = c :: more

theorem OpensWith.absent_cons {opening : Char} (opens : spells.OpensWith opening) {c : Char}
    (other : c ≠ opening) (text : Text) : spells.Absent (c :: text) := by
  rintro front behind whole ⟨parts, spelled⟩
  obtain ⟨more, rfl⟩ := opens parts front spelled
  exact other (List.cons.inj whole).1

theorem OpensWith.clear {opening : Char} (opens : spells.OpensWith opening) {gap : Text}
    (plain : opening ∉ gap) (rest : Text) : spells.Clear gap rest := by
  induction gap with
  | nil => exact spells.clear_nil rest
  | cons c gap ih =>
      simp only [List.mem_cons, not_or] at plain
      rw [clear_cons]
      exact ⟨opens.absent_cons (Ne.symm plain.1) _, ih plain.2⟩

/-- Every text of the grammar is two braces, a character of a word, and then no brace. -/
def Braced (spells : Spelling α) : Prop :=
  ∀ parts written, spells parts written →
    ∃ c more, written = '{' :: '{' :: c :: more ∧ Text.isWord c = true ∧ '{' ∉ c :: more

theorem Braced.opensWith (braced : spells.Braced) : spells.OpensWith '{' := by
  intro parts written spelled
  obtain ⟨c, more, rfl, _, _⟩ := braced parts written spelled
  exact ⟨_, rfl⟩

theorem Braced.absent_of_second (braced : spells.Braced) {d : Char} (other : d ≠ '{') (c : Char)
    (text : Text) : spells.Absent (c :: d :: text) := by
  rintro front behind whole ⟨parts, spelled⟩
  obtain ⟨first, more, rfl, _, _⟩ := braced parts front spelled
  exact other (List.cons.inj (List.cons.inj whole).2).1

/-- One brace begins nothing. -/
theorem Braced.clear_brace (braced : spells.Braced) {gap : Text} (nonempty : gap ≠ [])
    (plain : '{' ∉ gap) (rest : Text) : spells.Clear ('{' :: gap) rest := by
  rw [clear_cons]
  refine ⟨?_, braced.opensWith.clear plain rest⟩
  obtain ⟨d, more, rfl⟩ := List.exists_cons_of_ne_nil nonempty
  have other : d ≠ '{' := fun same => plain (by simp [same])
  exact braced.absent_of_second other '{' (more ++ rest)

/-- What is absent stays so when a brace follows, unless with that brace a directive begins. -/
theorem Braced.absent_append (braced : spells.Braced) {front : Text} (nonempty : front ≠ [])
    (absent : spells.Absent front) {d : Char} (wordless : Text.isWord d = false) (text : Text) :
    spells.Absent (front ++ '{' :: d :: text) := by
  rintro written behind whole ⟨parts, spelled⟩
  rcases List.append_eq_append_iff.1 whole with ⟨inside, split, remainder⟩ | ⟨inside, split, _⟩
  · cases inside with
    | nil =>
        rw [List.append_nil] at split
        exact absent front [] (List.append_nil front).symm ⟨parts, split ▸ spelled⟩
    | cons head inside =>
        -- The brace behind the front lies in the directive, so it is one of the first two there.
        obtain ⟨c, more, rfl, word, plain⟩ := braced parts written spelled
        obtain ⟨rfl, behindBrace⟩ := List.cons.inj remainder
        match front, nonempty with
        | [_], _ =>
            obtain ⟨_, tail⟩ := List.cons.inj split
            obtain ⟨_, rfl⟩ := List.cons.inj tail
            obtain ⟨rfl, _⟩ := List.cons.inj behindBrace
            rw [word] at wordless
            cases wordless
        | _ :: _ :: _, _ =>
            obtain ⟨_, tail⟩ := List.cons.inj split
            obtain ⟨_, reached⟩ := List.cons.inj tail
            apply plain
            rw [reached]
            simp
  · exact absent written inside split ⟨parts, spelled⟩

end Spelling

namespace Grammar

variable {α : Type} {g : Grammar α} {spells : Spelling α}

theorem Reads.cut_gap_append (reads : g.Reads spells) {gap rest : Text}
    (clear : spells.Clear gap rest) : g.cut (gap ++ rest) = (g.cut rest).prepend gap := by
  induction gap with
  | nil => rw [List.nil_append, Cut.prepend_nil]
  | cons c gap ih =>
      obtain ⟨absent, clear⟩ := (spells.clear_cons c gap rest).1 clear
      have unread : g.read (c :: (gap ++ rest)) = none := reads.read_eq_none_iff.2 absent
      rw [List.cons_append, cut_of_not_read unread, ih clear, Cut.prepend_cons]

theorem Reads.substitute_gap_append (reads : g.Reads spells) {gap rest : Text}
    (clear : spells.Clear gap rest) (replace : Text → α → Emission) :
    g.substitute replace (gap ++ rest) = .silent gap ++ g.substitute replace rest := by
  rw [substitute_eq_rewrite, substitute_eq_rewrite, reads.cut_gap_append clear, Cut.rewrite_prepend]

theorem substitute_of_read {written rest : Text} {parts : α}
    (found : g.read (written ++ rest) = some (parts, rest)) (replace : Text → α → Emission) :
    g.substitute replace (written ++ rest) =
      replace written parts ++ g.substitute replace rest := by
  rw [substitute_eq_rewrite, substitute_eq_rewrite, cut_of_read found]
  rfl

theorem Reads.not_occursIn (reads : g.Reads spells) {text : Text} (clear : spells.Clear text []) :
    g.occursIn text = false := by
  have unread {text : Text} (absent : spells.Absent text) : (g.read text).isSome = false := by
    rw [reads.read_eq_none_iff.2 absent]
    rfl
  induction text with
  | nil =>
      apply unread
      rintro front behind whole ⟨parts, spelled⟩
      obtain ⟨rfl, rfl⟩ := List.append_eq_nil_iff.1 whole.symm
      obtain ⟨_, _, read, _⟩ := reads.complete [] spelled
      have shorter := g.length_lt read
      simp at shorter
  | cons c text ih =>
      obtain ⟨absent, clear⟩ := (spells.clear_cons c text []).1 clear
      rw [List.append_nil] at absent
      rw [occursIn, unread absent, ih clear]
      rfl

/-- Nothing that begins before a text is read further, or any differently, because of it. -/
def StopsBefore (g : Grammar α) (text : Text) : Prop :=
  ∀ front, front ≠ [] →
    g.read (front ++ text) = (g.read front).map fun found => (found.1, found.2 ++ text)

theorem cut_append {text : Text} (stops : g.StopsBefore text) (front : Text) :
    g.cut (front ++ text) = (g.cut front).append (g.cut text) := by
  induction front using pieces.induct (g := g) with
  | case1 => simp [Cut.append]
  | case2 c front parts rest found ih =>
      obtain ⟨written, _, whole⟩ := g.consumes found
      have read := stops (c :: front) (List.cons_ne_nil c front)
      rw [found, Option.map_some, whole, List.append_assoc] at read
      rw [whole] at found ⊢
      rw [List.append_assoc, cut_of_read read, cut_of_read found, ih]
      rfl
  | case3 c front absent ih =>
      have unread := stops (c :: front) (List.cons_ne_nil c front)
      rw [absent, Option.map_none, List.cons_append] at unread
      rw [List.cons_append, cut_of_not_read unread, cut_of_not_read absent, ih, Cut.push_append]

/-- A directive with two braces at its front and none behind is not read across a brace that is not
followed by a word. -/
theorem Reads.stopsBefore_brace (reads : g.Reads spells) (braced : spells.Braced) {d : Char}
    (wordless : Text.isWord d = false) (text : Text) : g.StopsBefore ('{' :: d :: text) := by
  intro front nonempty
  cases read : g.read front with
  | some found =>
      obtain ⟨written, shortest, whole⟩ := reads.read_eq_some_iff.1 read
      rw [Option.map_some, reads.read_eq_some_iff]
      exact ⟨written, shortest, by rw [whole, List.append_assoc]⟩
  | none =>
      have absent := reads.read_eq_none_iff.1 read
      rw [Option.map_none, reads.read_eq_none_iff]
      exact braced.absent_append nonempty absent wordless text

end Grammar

end Stencil
