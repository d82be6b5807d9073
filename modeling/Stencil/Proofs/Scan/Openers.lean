import Stencil.Proofs.Scan.Locality

set_option autoImplicit false

namespace Stencil

namespace Text

/-- A mark begins nowhere in the text, whatever follows the text. -/
def Lacks (mark text : Text) : Prop :=
  ∀ before inside rest, text = before ++ inside → inside ≠ [] → ¬ mark <+: inside ++ rest

variable {mark text : Text}

theorem lacks_nil (mark : Text) : Lacks mark [] := by
  intro before inside rest whole nonempty
  exact absurd (List.append_eq_nil_iff.1 whole.symm).2 nonempty

theorem lacks_cons {c : Char} :
    Lacks mark (c :: text) ↔ (∀ rest, ¬ mark <+: c :: text ++ rest) ∧ Lacks mark text := by
  constructor
  · intro lacks
    refine ⟨fun rest => lacks [] (c :: text) rest rfl (by simp), ?_⟩
    intro before inside rest whole nonempty
    exact lacks (c :: before) inside rest (by simp [whole]) nonempty
  · rintro ⟨here, lacks⟩ before inside rest whole nonempty
    cases before with
    | nil =>
        rw [List.nil_append] at whole
        exact whole ▸ here rest
    | cons head before => exact lacks before inside rest (List.cons.inj whole).2 nonempty

theorem Lacks.append {front : Text} (ahead : Lacks mark front) (behind : Lacks mark text) :
    Lacks mark (front ++ text) := by
  induction front with
  | nil => exact behind
  | cons c front ih =>
      obtain ⟨here, ahead⟩ := lacks_cons.1 ahead
      rw [List.cons_append, lacks_cons]
      refine ⟨fun rest => ?_, ih ahead⟩
      have reached := here (text ++ rest)
      simpa using reached

theorem lacks_of_not_mem {first : Char} {more : Text} (absent : first ∉ text) :
    Lacks (first :: more) text := by
  induction text with
  | nil => exact lacks_nil _
  | cons c text ih =>
      simp only [List.mem_cons, not_or] at absent
      rw [lacks_cons]
      refine ⟨fun rest begins => ?_, ih absent.2⟩
      exact absent.1 (List.cons_prefix_cons.1 begins).1

/-- A mark that does not hold the last character of a text cannot begin in the text and end behind
it. -/
theorem lacks_append_singleton {c : Char} (apart : c ∉ mark) (absent : ¬ mark <:+: text) :
    Lacks mark (text ++ [c]) := by
  induction text with
  | nil =>
      rw [List.nil_append, lacks_cons]
      refine ⟨fun rest begins => ?_, lacks_nil mark⟩
      cases mark with
      | nil => exact absent List.nil_infix
      | cons first mark => exact apart (by simp [(List.cons_prefix_cons.1 begins).1])
  | cons first text ih =>
      rw [List.cons_append, lacks_cons]
      refine ⟨fun rest begins => ?_, ih fun inside => absent (List.infix_cons inside)⟩
      have front : mark <+: first :: text := by
        apply prefix_append_cons apart
        simpa using begins
      exact absent front.isInfix

theorem Lacks.not_isInfix (nonempty : mark ≠ []) (lacks : Lacks mark text) : ¬ mark <:+: text := by
  rintro ⟨before, behind, rfl⟩
  exact lacks before (mark ++ behind) [] (by simp) (by simp [nonempty]) (by simp)

theorem Lacks.of_prefix {front : Text} (lacks : Lacks front text) (begins : front <+: mark) :
    Lacks mark text :=
  fun before inside rest whole nonempty reached =>
    lacks before inside rest whole nonempty (begins.trans reached)

end Text

namespace Spelling

variable {α : Type} {spells : Spelling α} {opener : Text}

/-- Every text of the grammar begins with the opener. -/
def BeginsWith (spells : Spelling α) (opener : Text) : Prop :=
  ∀ parts written, spells parts written → opener <+: written

theorem BeginsWith.absent (begins : spells.BeginsWith opener) {text : Text}
    (unopened : ¬ opener <+: text) : spells.Absent text := by
  rintro front behind rfl ⟨parts, spelled⟩
  exact unopened ((begins parts front spelled).trans (List.prefix_append front behind))

theorem BeginsWith.clear (begins : spells.BeginsWith opener) {gap : Text}
    (lacks : Text.Lacks opener gap) (rest : Text) : spells.Clear gap rest := by
  intro before inside whole nonempty
  exact begins.absent (lacks before inside rest whole nonempty)

/-- Where a mark's first character comes only once in it, no mark reaches out of a gap that holds
none, up to the next text that begins with that character. -/
theorem clear_of_marked {first : Char} {gap rest : Text}
    (marked : ∀ parts written, spells parts written →
      ∃ more, first ∉ more ∧ first :: more <+: written ∧ ¬ first :: more <:+: gap)
    (front : ∀ c ∈ rest.head?, c = first) : spells.Clear gap rest := by
  intro before inside whole nonempty written behind split
  rintro ⟨parts, spelled⟩
  obtain ⟨more, once, begins, absent⟩ := marked parts written spelled
  have within {tail : Text} (same : inside = first :: more ++ tail) : first :: more <:+: gap :=
    ⟨before, tail, by rw [whole, same, List.append_assoc]⟩
  obtain ⟨tail, reached⟩ : first :: more <+: inside ++ rest :=
    split ▸ begins.trans (List.prefix_append written behind)
  rcases List.append_eq_append_iff.1 reached with ⟨remainder, same, _⟩ | ⟨outside, same, reaches⟩
  · exact absent (within same)
  · cases outside with
    | nil => exact absent (@within [] (by simpa using same.symm))
    | cons c outside =>
        -- The mark goes on behind the gap, where its first character comes again.
        have again : c = first := front c (by rw [reaches]; rfl)
        obtain ⟨d, inside, rfl⟩ := List.exists_cons_of_ne_nil nonempty
        obtain ⟨_, rest_of_mark⟩ := List.cons.inj same
        exact once (by rw [rest_of_mark, again]; simp)

end Spelling

theorem Grammar.Reads.not_occursIn_of_unopened {α : Type} {g : Grammar α} {spells : Spelling α}
    {opener text : Text} (reads : g.Reads spells) (begins : spells.BeginsWith opener)
    (unopened : ¬ opener <:+: text) : g.occursIn text = false := by
  apply reads.not_occursIn
  intro before inside whole _
  apply begins.absent
  intro front
  rw [List.append_nil] at front
  exact unopened (whole ▸ front.isInfix.trans (List.suffix_append before inside).isInfix)

theorem Metadata.beginsWith_opener : Spelling.BeginsWith Spells opener := by
  rintro body written rfl
  exact ⟨body ++ closer, by simp⟩

theorem Macro.definition_beginsWith_opener : Spelling.BeginsWith SpellsDefinition opener := by
  rintro definition written ⟨_, list, _, _, _, rfl⟩
  exact ⟨definition.name ++ list ++ ['}'] ++ definition.body ++ closer, by simp⟩

theorem Include.beginsWith_opener : Spelling.BeginsWith Spells opener := by
  rintro path written ⟨_, rfl⟩
  exact ⟨path ++ closer, by simp⟩

theorem Loop.beginsWith_opener : Spelling.BeginsWith Spells opener := by
  rintro block written ⟨_, _, rfl⟩
  exact ⟨block.target.written ++ arrow ++ block.item ++ ['}'] ++ block.body ++ closer,
    by simp [header]⟩

theorem Conditional.beginsWith_opener : Spelling.BeginsWith Spells opener := by
  rintro block written ⟨_, rfl⟩
  exact ⟨(if block.negated then ['!'] else []) ++ block.target.written ++ ['}'] ++ block.body ++
    closer, by simp [header]⟩

theorem Reference.beginsWith_opener : Spelling.BeginsWith Spells opener := by
  rintro reference written ⟨_, list, _, rfl⟩
  exact ⟨reference.target.written ++ list ++ closer, by simp⟩

/-- What the directives that a stage can replace begin with. -/
def Stage.opener : Stage → Text
  | metadata => Metadata.opener
  | macros => Macro.opener
  | includes => Include.opener
  | loops => Loop.opener
  | conditionals => Conditional.opener
  | references => Reference.opener

theorem Stage.opener_eq (stage : Stage) : ∃ more, stage.opener = '{' :: more := by
  cases stage <;> exact ⟨_, rfl⟩

theorem Stage.opener_front (stage : Stage) :
    ['{', '{'] <+: stage.opener ∨ ['{', '#'] <+: stage.opener := by
  cases stage <;> decide

end Stencil
