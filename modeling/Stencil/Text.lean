set_option autoImplicit false

namespace Stencil

/-- A document, a name or a value's text, character by character. -/
abbrev Text := List Char

namespace Text

-- `List.isPrefixOf?` reads a literal off the front of a text and gives what is behind it. Lean's
-- own library has no lemmas about it.

@[simp] theorem isPrefixOf?_nil (text : Text) : List.isPrefixOf? [] text = some text := rfl

@[simp] theorem isPrefixOf?_cons_nil (c : Char) (literal : Text) :
    (c :: literal).isPrefixOf? [] = none := rfl

@[simp] theorem isPrefixOf?_cons_cons (c d : Char) (literal text : Text) :
    (c :: literal).isPrefixOf? (d :: text) =
      if c = d then literal.isPrefixOf? text else none := by
  change (if (c == d) = true then literal.isPrefixOf? text else none) = _
  simp only [beq_iff_eq]

theorem isPrefixOf?_eq_some_iff {literal text rest : Text} :
    literal.isPrefixOf? text = some rest ↔ text = literal ++ rest := by
  induction literal generalizing text with
  | nil => simp
  | cons c literal ih =>
      cases text with
      | nil => simp
      | cons d text =>
          by_cases same : c = d
          · simp [same, ih]
          · simp [same, Ne.symm same]

@[simp] theorem isPrefixOf?_append (literal rest : Text) :
    literal.isPrefixOf? (literal ++ rest) = some rest :=
  isPrefixOf?_eq_some_iff.2 rfl

/-- The text before the first occurrence of a mark, and the text after it. -/
def cut? (mark : Text) : Text → Option (Text × Text)
  | [] => (mark.isPrefixOf? []).map fun rest => ([], rest)
  | char :: text =>
      match mark.isPrefixOf? (char :: text) with
      | some rest => some ([], rest)
      | none => (cut? mark text).map fun (body, rest) => (char :: body, rest)

theorem eq_append_of_cut? {mark text body rest : Text}
    (found : cut? mark text = some (body, rest)) : text = body ++ mark ++ rest := by
  induction text generalizing body with
  | nil =>
      obtain ⟨tail, stripped, same⟩ := Option.map_eq_some_iff.1 found
      obtain ⟨rfl, rfl⟩ := Prod.mk.inj same
      simpa using isPrefixOf?_eq_some_iff.1 stripped
  | cons char text ih =>
      unfold cut? at found
      split at found
      · rename_i tail stripped
        obtain ⟨rfl, rfl⟩ := Prod.mk.inj (Option.some.inj found)
        simpa using isPrefixOf?_eq_some_iff.1 stripped
      · obtain ⟨⟨inner, tail⟩, deeper, same⟩ := Option.map_eq_some_iff.1 found
        obtain ⟨rfl, rfl⟩ := Prod.mk.inj same
        simp [ih deeper]

/-- The text is cut at its first mark: none starts inside the part before it. -/
theorem cut?_first {mark text body rest : Text} (found : cut? mark text = some (body, rest))
    (before after : Text) (inside : body = before ++ after) (nonempty : after ≠ []) :
    mark.isPrefixOf? (after ++ mark ++ rest) = none := by
  induction text generalizing body before with
  | nil =>
      obtain ⟨_, _, same⟩ := Option.map_eq_some_iff.1 found
      rw [← (Prod.mk.inj same).1] at inside
      exact absurd (List.append_eq_nil_iff.1 inside.symm).2 nonempty
  | cons char text ih =>
      have whole := eq_append_of_cut? found
      unfold cut? at found
      split at found
      · rw [← (Prod.mk.inj (Option.some.inj found)).1] at inside
        exact absurd (List.append_eq_nil_iff.1 inside.symm).2 nonempty
      · rename_i absent
        obtain ⟨⟨inner, tail⟩, deeper, same⟩ := Option.map_eq_some_iff.1 found
        obtain ⟨rfl, rfl⟩ := Prod.mk.inj same
        cases before with
        | nil =>
            rw [List.nil_append] at inside
            rw [← inside, ← whole]
            exact absent
        | cons head before =>
            obtain ⟨_, inside⟩ := List.cons.inj inside
            exact ih deeper before inside

theorem cut?_of_isPrefixOf? {mark text rest : Text}
    (stripped : mark.isPrefixOf? text = some rest) : cut? mark text = some ([], rest) := by
  cases text with
  | nil => simp [cut?, stripped]
  | cons char text => simp [cut?, stripped]

/-- A mark that is there is found, or an earlier one is. -/
theorem cut?_append (mark body rest : Text) :
    ∃ found behind, cut? mark (body ++ mark ++ rest) = some (found, behind) ∧
      (rest.length < behind.length ∨ found = body ∧ behind = rest) := by
  induction body with
  | nil => exact ⟨[], rest, cut?_of_isPrefixOf? (isPrefixOf?_append mark rest), Or.inr ⟨rfl, rfl⟩⟩
  | cons char body ih =>
      obtain ⟨found, behind, cut, which⟩ := ih
      simp only [List.cons_append]
      cases stripped : mark.isPrefixOf? (char :: (body ++ mark ++ rest)) with
      | some tail =>
          have length := congrArg List.length (isPrefixOf?_eq_some_iff.1 stripped)
          simp only [List.length_cons, List.length_append] at length
          exact ⟨[], tail, cut?_of_isPrefixOf? stripped, Or.inl (by omega)⟩
      | none =>
          refine ⟨char :: found, behind, by simp only [cut?, stripped, cut, Option.map_some], ?_⟩
          rcases which with earlier | ⟨same, last⟩
          · exact Or.inl earlier
          · exact Or.inr ⟨by rw [same], last⟩

/-- A text is cut at the mark behind a body that does not hold it, if the mark cannot overlap itself
because its first character does not come again. -/
theorem cut?_append_of_not_infix {first : Char} {more body : Text} (once : first ∉ more)
    (absent : ¬ first :: more <:+: body) (rest : Text) :
    cut? (first :: more) (body ++ first :: more ++ rest) = some (body, rest) := by
  induction body with
  | nil => exact cut?_of_isPrefixOf? (isPrefixOf?_append (first :: more) rest)
  | cons char body ih =>
      have deeper : ¬ first :: more <:+: body := fun inside => absent (List.infix_cons inside)
      have unmarked :
          (first :: more).isPrefixOf? (char :: (body ++ first :: more ++ rest)) = none := by
        cases stripped : (first :: more).isPrefixOf? (char :: (body ++ first :: more ++ rest)) with
        | none => rfl
        | some tail =>
            obtain ⟨rfl, behind⟩ := List.cons.inj (isPrefixOf?_eq_some_iff.1 stripped)
            rw [List.append_assoc] at behind
            rcases List.append_eq_append_iff.1 behind with ⟨inner, split, start⟩ | ⟨inner, split, _⟩
            · cases inner with
              | nil =>
                  rw [List.append_nil] at split
                  exact absurd ⟨[], [], by simp [split]⟩ absent
              | cons head inner =>
                  obtain ⟨rfl, _⟩ := List.cons.inj start
                  exact absurd (split ▸ by simp) once
            · exact absurd ⟨[], inner, by simp [split]⟩ absent
      simp only [List.cons_append, cut?, unmarked, ih deeper, Option.map_some]

/-- The part before the first mark does not hold it. -/
theorem not_infix_of_cut? {mark text body rest : Text} (nonempty : mark ≠ [])
    (found : cut? mark text = some (body, rest)) : ¬ mark <:+: body := by
  rintro ⟨before, after, whole⟩
  have inside : body = before ++ (mark ++ after) := by simp [← whole]
  have absent := cut?_first found before (mark ++ after) inside (by simp [nonempty])
  rw [List.append_assoc, List.append_assoc, isPrefixOf?_append] at absent
  cases absent

/-- A mark does not reach across a character that it does not hold. -/
theorem infix_append_cons {mark left right : Text} {c : Char} (apart : c ∉ mark)
    (inside : mark <:+: left ++ c :: right) : mark <:+: left ∨ mark <:+: right := by
  have nothing {part : Text} (front : part <+: c :: right) (within : part ⊆ mark) :
      part = [] := by
    cases part with
    | nil => rfl
    | cons head part =>
        obtain ⟨rfl, _⟩ := List.cons_prefix_cons.1 front
        exact absurd (within (by simp)) apart
  rcases List.infix_append_iff.1 inside with before | behind | ⟨first, second, whole, suffix, front⟩
  · exact Or.inl before
  · rcases List.infix_cons_iff.1 behind with front | behind
    · rw [nothing front (List.Subset.refl mark)]
      exact Or.inl (List.nil_infix)
    · exact Or.inr behind
  · have ended := nothing front (by simp [whole])
    rw [ended, List.append_nil] at whole
    exact Or.inl (whole ▸ suffix.isInfix)

theorem prefix_append_cons {mark left right : Text} {c : Char} (apart : c ∉ mark)
    (front : mark <+: left ++ c :: right) : mark <+: left := by
  obtain ⟨behind, whole⟩ := front
  rcases List.append_eq_append_iff.1 whole with ⟨inside, split, _⟩ | ⟨inside, split, rest⟩
  · exact ⟨inside, split.symm⟩
  · cases inside with
    | nil => exact ⟨[], by simpa using split⟩
    | cons head inside =>
        obtain ⟨rfl, _⟩ := List.cons.inj rest
        exact absurd (split ▸ by simp) apart

/-- A text is cut at a single character where that character first stands. -/
theorem cut?_singleton_iff {mark : Char} {text body rest : Text} :
    cut? [mark] text = some (body, rest) ↔ mark ∉ body ∧ text = body ++ mark :: rest := by
  induction text generalizing body with
  | nil => simp [cut?]
  | cons char text ih =>
      by_cases same : mark = char
      · subst same
        have stripped : [mark].isPrefixOf? (mark :: text) = some text := by simp
        rw [cut?_of_isPrefixOf? stripped]
        cases body with
        | nil => simp
        | cons head body =>
            simp only [Option.some.injEq, Prod.mk.injEq, List.nil_eq, reduceCtorEq, false_and,
              List.mem_cons, not_or, List.cons_append, List.cons.injEq, false_iff]
            exact fun ⟨absent, equal⟩ => absent.1 equal.1
      · simp only [cut?, isPrefixOf?_cons_cons, same, ↓reduceIte, Option.map_eq_some_iff,
          Prod.exists, Prod.mk.injEq]
        constructor
        · rintro ⟨inner, tail, found, rfl, rfl⟩
          obtain ⟨absent, rfl⟩ := ih.1 found
          exact ⟨by simp [same, absent], rfl⟩
        · rintro ⟨absent, whole⟩
          cases body with
          | nil => exact absurd (List.cons.inj whole).1.symm same
          | cons head body =>
              obtain ⟨rfl, behind⟩ := List.cons.inj whole
              exact ⟨body, rest, ih.2 ⟨fun member => absent (by simp [member]), behind⟩, rfl, rfl⟩

/-- Texts in the order of their code points, a proper beginning first. -/
def le : Text → Text → Bool
  | [], _ => true
  | _ :: _, [] => false
  | a :: s, b :: t => if a = b then le s t else a.toNat < b.toNat

def sameLetters : Text → Text → Bool
  | [], [] => true
  | a :: s, b :: t => a.toLower = b.toLower && sameLetters s t
  | _, _ => false

theorem sameLetters_iff {first second : Text} :
    sameLetters first second = true ↔ first.map Char.toLower = second.map Char.toLower := by
  induction first generalizing second with
  | nil => cases second <;> simp [sameLetters]
  | cons a first ih =>
      cases second with
      | nil => simp [sameLetters]
      | cons b second => simp [sameLetters, ih]

end Text

end Stencil
