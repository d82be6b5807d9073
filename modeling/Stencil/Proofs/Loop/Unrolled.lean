import Stencil.Proofs.Scan.Apart

set_option autoImplicit false

namespace Stencil

theorem Grammar.reads_literal (first : Char) (more : Text) :
    (literal first more).Reads fun _ written => written = first :: more := by
  apply Reads.of_read
  · intro text parts rest found
    obtain ⟨behind, stripped, same⟩ := Option.map_eq_some_iff.1 found
    cases same
    exact ⟨first :: more, rfl, Text.isPrefixOf?_eq_some_iff.1 stripped⟩
  · rintro parts written rest rfl
    have stripped := Text.isPrefixOf?_append (first :: more) rest
    exact congrArg (Option.map _) stripped

namespace Loop

variable {item : Text}

def slot (item : Text) : Grammar Unit := .literal '{' ('{' :: item ++ ['}', '}'])

theorem instantiate_eq (item body : Text) (element : Value) :
    instantiate item body element =
      ((slot item).substitute (fun _ _ => .silent element.text) body).text := rfl

def SpellsPlaceholder (item : Text) : Spelling Unit := fun _ written => written = placeholder item

theorem reads_slot (item : Text) : (slot item).Reads (SpellsPlaceholder item) :=
  Grammar.reads_literal '{' ('{' :: item ++ ['}', '}'])

theorem placeholder_beginsWith (item : Text) :
    (SpellsPlaceholder item).BeginsWith (placeholder item) := by
  rintro _ written rfl
  exact List.prefix_rfl

theorem placeholder_braced (run : Text.IsRun Text.isWord item) :
    (SpellsPlaceholder item).Braced := by
  rintro _ written rfl
  have plain : '{' ∉ item := run.not_mem (by decide)
  obtain ⟨nonempty, word⟩ := run
  obtain ⟨c, name, rfl⟩ := List.exists_cons_of_ne_nil nonempty
  exact ⟨c, name ++ ['}', '}'], rfl, word c (by simp), by simpa using plain⟩

/-- Two braces without a brace behind them begin a placeholder right there or nowhere. -/
theorem clear_of_not_prefix (run : Text.IsRun Text.isWord item) {tail rest : Text}
    (nonempty : tail ≠ []) (plain : '{' ∉ tail)
    (apart : ¬ placeholder item <+: '{' :: '{' :: tail ++ rest) :
    (SpellsPlaceholder item).Clear ('{' :: '{' :: tail) rest := by
  have here := (placeholder_beginsWith item).absent apart
  have behind := (placeholder_braced run).clear_brace nonempty plain rest
  exact (Spelling.clear_cons _ '{' _ rest).2 ⟨here, behind⟩

/-- A word is followed by braces or by a dot, and not by both. -/
theorem not_placeholder_prefix {name : Text} (run : Text.IsRun Text.isWord item)
    (named : Text.IsRun Text.isWord name) (rest : Text) :
    ¬ placeholder item <+: '{' :: '{' :: name ++ '.' :: rest := by
  rintro ⟨behind, whole⟩
  have inner : item ++ '}' :: '}' :: behind = name ++ '.' :: rest := by
    simpa [placeholder] using whole
  have brace : Text.Stops Text.isWord ('}' :: '}' :: behind) := Text.stops_cons (by decide) _
  have dot : Text.Stops Text.isWord ('.' :: rest) := Text.stops_cons (by decide) rest
  obtain ⟨_, same⟩ := run.append_inj named brace dot inner
  exact absurd (List.cons.inj same).1 (by decide)

theorem clear_reference (run : Text.IsRun Text.isWord item) {reference : Reference} {written : Text}
    (spelled : reference.Spells written) (rest : Text) :
    (SpellsPlaceholder item).Clear written rest := by
  obtain ⟨name, tail, named, plain, rfl⟩ := spelled.shape
  have unbraced : '{' ∉ name ++ '.' :: tail := by
    have outside : '{' ∉ name := named.not_mem (by decide)
    simp [outside, plain]
  apply clear_of_not_prefix run (by simp) unbraced
  have apart := not_placeholder_prefix run named (tail ++ rest)
  simpa using apart

theorem read_slot (item rest : Text) :
    (slot item).read (placeholder item ++ rest) = some ((), rest) := by
  have stripped := Text.isPrefixOf?_append (placeholder item) rest
  exact congrArg (Option.map fun rest => ((), rest)) stripped

theorem turns_placeholder (item new : Text) :
    (slot item).Turns (fun _ _ => .silent new) (placeholder item) new :=
  Grammar.turns_of_read (read_slot item)

/-- A body between whose placeholders there is nothing but text without opening braces and pieces
that no placeholder begins in: with an element put in, it is put together from those pieces. -/
theorem composed_instantiate {kind : Text → Prop} {body : Text} {element : Value}
    (unbraced : '{' ∉ element.text)
    (clear : ∀ written, kind written → ∀ rest, (SpellsPlaceholder item).Clear written rest)
    (composed : Composed (fun written => kind written ∨ written = placeholder item) body) :
    Composed kind (instantiate item body element) := by
  have each : ∀ written, kind written ∨ written = placeholder item →
      ∃ out, Composed kind out ∧
        (slot item).Turns (fun _ _ => .silent element.text) written out := by
    intro written piece
    rcases piece with other | same
    · exact ⟨written, .of_piece other, (reads_slot item).turns_of_clear (clear written other)⟩
    · rw [same]
      exact ⟨element.text, .of_plain unbraced, turns_placeholder item element.text⟩
  obtain ⟨out, made, turned⟩ := composed.turns (reads_slot item) (placeholder_beginsWith item) each
  rw [instantiate_eq, turned.substitute_text]
  exact made

theorem composed_unrolled {kind : Text → Prop} {body : Text} {elements : List Value}
    (unbraced : ∀ element ∈ elements, '{' ∉ element.text)
    (clear : ∀ written, kind written → ∀ rest, (SpellsPlaceholder item).Clear written rest)
    (composed : Composed (fun written => kind written ∨ written = placeholder item) body) :
    Composed kind (unrolled item body elements) := by
  apply Composed.flatMap
  intro element member
  exact composed_instantiate (unbraced element (List.mem_filter.1 member).1) clear composed

theorem instantiate_between {front behind : Text} (ahead : '{' ∉ front) (after : '{' ∉ behind)
    (element : Value) :
    instantiate item (front ++ placeholder item ++ behind) element =
      front ++ element.text ++ behind := by
  have copied {gap : Text} (plain : '{' ∉ gap) :
      (slot item).Turns (fun _ _ => .silent element.text) gap gap :=
    (reads_slot item).turns_of_lacks (placeholder_beginsWith item) (Text.lacks_of_not_mem plain)
  have whole := ((copied ahead).append (turns_placeholder item element.text)).append (copied after)
  rw [instantiate_eq, whole.substitute_text]

end Loop

end Stencil
