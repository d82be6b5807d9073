import Stencil.Proofs.Scan.Cut
import Stencil.Directive.Conditional
import Stencil.Directive.Include
import Stencil.Directive.Loop
import Stencil.Directive.Macro
import Stencil.Directive.Metadata
import Stencil.Directive.Reference

set_option autoImplicit false

namespace Stencil

/-- A reader that looks for the first closer behind a header finds the one that ends a given body,
or an earlier one. -/
theorem Text.cut?_behind_header {α : Type} {read : Text → Option (α × Text)} {header closer : Text}
    (make : Text → α) (body rest : Text)
    (read_header : ∀ text, read (header ++ text) =
      (Text.cut? closer text).map fun found => (make found.1, found.2)) :
    ∃ found behind, read (header ++ body ++ closer ++ rest) = some (found, behind) ∧
      (rest.length < behind.length ∨ found = make body ∧ behind = rest) := by
  obtain ⟨first, behind, cut, which⟩ := Text.cut?_append closer body rest
  refine ⟨make first, behind, ?_, ?_⟩
  · have regroup : header ++ body ++ closer ++ rest = header ++ (body ++ closer ++ rest) := by simp
    rw [regroup, read_header, cut, Option.map_some]
  · rcases which with earlier | ⟨rfl, same⟩
    · exact Or.inl earlier
    · exact Or.inr ⟨rfl, same⟩

/-- Behind a header a block is read up to its closer if its body does not hold the closer. -/
theorem Text.read_unclosed {α : Type} {read : Text → Option (α × Text)} {header more body : Text}
    {first : Char} (make : Text → α) (once : first ∉ more)
    (read_header : ∀ text, read (header ++ text) =
      (Text.cut? (first :: more) text).map fun found => (make found.1, found.2))
    (unclosed : ¬ first :: more <:+: body) (rest : Text) :
    read (header ++ body ++ first :: more ++ rest) = some (make body, rest) := by
  have regroup : header ++ body ++ first :: more ++ rest =
      header ++ (body ++ first :: more ++ rest) := by simp
  rw [regroup, read_header, Text.cut?_append_of_not_infix once unclosed, Option.map_some]

/-- Where every text of the grammar is read whole, the reader is complete. -/
theorem Grammar.Reads.of_read {α : Type} {g : Grammar α} {spells : Spelling α}
    (sound : ∀ {text parts rest}, g.read text = some (parts, rest) →
      ∃ written, spells parts written ∧ text = written ++ rest)
    (read_spelled : ∀ {parts written} (rest : Text), spells parts written →
      g.read (written ++ rest) = some (parts, rest)) : g.Reads spells where
  sound := sound
  complete rest spelled := ⟨_, rest, read_spelled rest spelled, Or.inr ⟨rfl, rfl⟩⟩

namespace Metadata

theorem readBlock_header (text : Text) :
    readBlock (opener ++ text) = (Text.cut? closer text).map fun found => (found.1, found.2) := by
  simp [readBlock]

theorem reads_block : block.Reads Spells where
  sound := spells_of_readBlock
  complete {body _} rest := by
    rintro rfl
    exact Text.cut?_behind_header id body rest readBlock_header

theorem readBlock_append {body : Text} (unclosed : ¬ closer <:+: body) (rest : Text) :
    readBlock (opener ++ body ++ closer ++ rest) = some (body, rest) :=
  Text.read_unclosed id (by decide) readBlock_header unclosed rest

end Metadata

namespace Macro

theorem readDefinition_header {name list : Text} (named : Text.IsRun Text.isWord name)
    (listed : ∀ c ∈ list, isParameterList c) (stop : Text.Stops Text.isWord list) (text : Text) :
    readDefinition (opener ++ name ++ list ++ ['}'] ++ text) =
      (Text.cut? closer text).map fun found => (⟨name, Text.words list, found.1⟩, found.2) := by
  have close : Text.Stops isParameterList ('}' :: text) := Text.stops_cons (by decide) text
  have ended : Text.Stops Text.isWord (list ++ '}' :: text) :=
    Text.stops_append stop (Text.stops_cons (by decide) text)
  simp only [readDefinition, List.append_assoc, List.cons_append, List.nil_append,
    Text.isPrefixOf?_append, Text.run?_append named ended, Text.takeWhile_append_stop listed close,
    Text.dropWhile_append_stop listed close, Option.bind_eq_bind, Option.bind_some]
  simp only [Text.isPrefixOf?_cons_cons, ↓reduceIte, Text.isPrefixOf?_nil, Option.bind_some]
  cases Text.cut? closer text <;> rfl

theorem reads_definition : definition.Reads SpellsDefinition where
  sound := spells_of_readDefinition
  complete {parts _} rest := by
    rintro ⟨named, list, listed, stop, split, rfl⟩
    have make : parts = ⟨parts.name, Text.words list, parts.body⟩ := by rw [← split]
    rw [make]
    exact Text.cut?_behind_header
      (fun body => (⟨parts.name, Text.words list, body⟩ : Definition)) parts.body rest
      (readDefinition_header named listed stop)

theorem readDefinition_append {definition : Definition} {written : Text}
    (spelled : SpellsDefinition definition written) (unclosed : ¬ closer <:+: definition.body)
    (rest : Text) : readDefinition (written ++ rest) = some (definition, rest) := by
  obtain ⟨named, list, listed, stop, split, rfl⟩ := spelled
  have make : definition = ⟨definition.name, Text.words list, definition.body⟩ := by rw [← split]
  rw [make]
  exact Text.read_unclosed (fun body => (⟨definition.name, Text.words list, body⟩ : Definition))
    (by decide) (readDefinition_header named listed stop) unclosed rest

theorem readArguments_of_quoted {text inside argument rest : Text}
    (quoted : Text.skipBlank text = '"' :: inside)
    (closed : Text.cut? ['"'] inside = some (argument, rest)) :
    readArguments text = (argument :: (readArguments rest).1, (readArguments rest).2) := by
  rw [readArguments]
  split
  · rename_i opened again
    obtain ⟨_, rfl⟩ := List.cons.inj (again.symm.trans quoted)
    split
    · rename_i first behind found
      obtain ⟨rfl, rfl⟩ := Prod.mk.inj (Option.some.inj (found.symm.trans closed))
      rfl
    · rename_i unclosed
      rw [closed] at unclosed
      cases unclosed
  · rename_i plain
    exact absurd quoted (plain inside)

theorem readArguments_of_not_quoted {text : Text}
    (stop : ∀ inside, Text.skipBlank text ≠ '"' :: inside) :
    readArguments text = ([], Text.skipBlank text) := by
  rw [readArguments]
  split
  · rename_i inside quoted
    exact absurd quoted (stop inside)
  · rfl

theorem readArguments_append {arguments : List Text} {list rest : Text}
    (spelled : SpellsArguments arguments list)
    (stop : Text.Stops Text.isBlank rest) (unquoted : Text.Stops (· == '"') rest) :
    readArguments (list ++ rest) = (arguments, rest) := by
  induction spelled with
  | @none blank blanks =>
      have skipped := Text.skipBlank_append blanks stop
      rw [readArguments_of_not_quoted, skipped]
      intro inside quoted
      rw [skipped] at quoted
      rw [quoted] at unquoted
      exact absurd (unquoted '"' rfl) (by decide)
  | @more blank argument list arguments blanks plain others ih =>
      have quote : Text.Stops Text.isBlank ('"' :: (argument ++ '"' :: (list ++ rest))) :=
        Text.stops_cons (by decide) _
      have quoted := Text.skipBlank_append blanks quote
      have closed : Text.cut? ['"'] (argument ++ '"' :: (list ++ rest)) =
          some (argument, list ++ rest) :=
        Text.cut?_singleton_iff.2 ⟨plain, rfl⟩
      have regroup : blank ++ '"' :: argument ++ '"' :: list ++ rest =
          blank ++ '"' :: (argument ++ '"' :: (list ++ rest)) := by simp
      rw [regroup, readArguments_of_quoted quoted closed, ih]

theorem readUsage_append {usage : Usage} {written : Text} (rest : Text)
    (spelled : SpellsUsage usage written) :
    readUsage (written ++ rest) = some (usage, rest) := by
  obtain ⟨named, blank, list, blanks, listed, rfl⟩ := spelled
  have ended : Text.Stops Text.isWord (blank ++ '(' :: (list ++ ')' :: '#' :: rest)) :=
    Text.stops_append (blanks.stops Text.isWord_of_isBlank) (Text.stops_cons (by decide) _)
  have bracket : Text.Stops Text.isBlank ('(' :: (list ++ ')' :: '#' :: rest)) :=
    Text.stops_cons (by decide) _
  have opened := Text.run?_append named ended
  have skipped := Text.skipBlank_append blanks bracket
  have arguments : readArguments (list ++ ')' :: '#' :: rest) =
      (usage.arguments, ')' :: '#' :: rest) :=
    readArguments_append listed (Text.stops_cons (by decide) _) (Text.stops_cons (by decide) _)
  simp [readUsage, opened, skipped, arguments]

theorem reads_usage : usage.Reads SpellsUsage :=
  .of_read spells_of_readUsage readUsage_append

def SpellsPlaceholder : Spelling Text := fun name written =>
  Text.IsRun Text.isWord name ∧ written = ['{', '{'] ++ name ++ ['}', '}']

theorem spells_of_readPlaceholder {text name rest : Text}
    (found : readPlaceholder text = some (name, rest)) :
    ∃ written, SpellsPlaceholder name written ∧ text = written ++ rest := by
  have whole := eq_append_of_readPlaceholder found
  simp only [readPlaceholder, Option.bind_eq_bind, Option.bind_eq_some_iff, Option.pure_def,
    Option.some.injEq, Prod.mk.injEq, Prod.exists] at found
  obtain ⟨_, _, _, _, run, _, _, rfl, _⟩ := found
  exact ⟨_, ⟨Text.isRun_of_run? run, rfl⟩, whole⟩

theorem readPlaceholder_append {name written : Text} (rest : Text)
    (spelled : SpellsPlaceholder name written) :
    readPlaceholder (written ++ rest) = some (name, rest) := by
  obtain ⟨run, rfl⟩ := spelled
  have ended : Text.Stops Text.isWord ('}' :: '}' :: rest) := Text.stops_cons (by decide) _
  have named := Text.run?_append run ended
  simp [readPlaceholder, named]

theorem reads_placeholder : placeholder.Reads SpellsPlaceholder :=
  .of_read spells_of_readPlaceholder readPlaceholder_append

end Macro

namespace Include

theorem readDirective_append {path written : Text} (rest : Text) (spelled : Spells path written) :
    readDirective (written ++ rest) = some (path, rest) := by
  obtain ⟨run, rfl⟩ := spelled
  have ended : Text.Stops Text.isPath (closer ++ rest) := Text.stops_cons (by decide) _
  have read := Text.run?_append run ended
  simp [readDirective, read]

theorem reads_directive : directive.Reads Spells :=
  .of_read spells_of_readDirective readDirective_append

end Include

namespace Loop

theorem readBlock_header {target : Target} {item : Text} (formed : target.WellFormed)
    (run : Text.IsRun Text.isWord item) (text : Text) :
    readBlock (header target item ++ text) =
      (Text.cut? closer text).map fun found => (⟨target, item, found.1⟩, found.2) := by
  have targeted : Target.read (target.written ++ (arrow ++ (item ++ '}' :: text))) =
      some (target, arrow ++ (item ++ '}' :: text)) := by
    apply Target.read_written formed
    exact Text.stops_cons (by decide) _
  have named : Text.run? Text.isWord (item ++ '}' :: text) = some (item, '}' :: text) := by
    apply Text.run?_append run
    exact Text.stops_cons (by decide) text
  simp only [readBlock, header, List.append_assoc, List.cons_append, List.nil_append,
    Text.isPrefixOf?_append, targeted, named, Option.bind_eq_bind, Option.bind_some]
  simp only [Text.isPrefixOf?_cons_cons, ↓reduceIte, Text.isPrefixOf?_nil, Option.bind_some]
  cases Text.cut? closer text <;> rfl

theorem reads_block : block.Reads Spells where
  sound := spells_of_readBlock
  complete {parts _} rest := by
    rintro ⟨formed, run, rfl⟩
    exact Text.cut?_behind_header (fun body => (⟨parts.target, parts.item, body⟩ : Block))
      parts.body rest (readBlock_header formed run)

theorem readBlock_append {block : Block} {written : Text} (spelled : Spells block written)
    (unclosed : ¬ closer <:+: block.body) (rest : Text) :
    readBlock (written ++ rest) = some (block, rest) := by
  obtain ⟨formed, run, rfl⟩ := spelled
  exact Text.read_unclosed (fun body => (⟨block.target, block.item, body⟩ : Block)) (by decide)
    (readBlock_header formed run) unclosed rest

end Loop

namespace Conditional

theorem readMark_target {target : Target} (formed : target.WellFormed) (rest : Text) :
    readMark (target.written ++ rest) = (false, target.written ++ rest) := by
  unfold readMark
  split
  · rename_i text whole
    have first : '!' ∈ target.name := by
      obtain ⟨nonempty, _⟩ := formed.1
      cases named : target.name with
      | nil => exact absurd named nonempty
      | cons head name =>
          rw [Target.written, named] at whole
          rw [(List.cons.inj whole).1]
          simp
    exact absurd (formed.1.2 '!' first) (by decide)
  · rfl

theorem readBlock_header {target : Target} (formed : target.WellFormed) (negated : Bool)
    (text : Text) :
    readBlock (header negated target ++ text) =
      (Text.cut? closer text).map fun found => (⟨negated, target, found.1⟩, found.2) := by
  have targeted : Target.read (target.written ++ '}' :: text) = some (target, '}' :: text) := by
    apply Target.read_written formed
    exact Text.stops_cons (by decide) text
  have marked : readMark ((if negated then ['!'] else []) ++ (target.written ++ '}' :: text)) =
      (negated, target.written ++ '}' :: text) := by
    cases negated with
    | true => rfl
    | false => exact readMark_target formed _
  simp only [readBlock, header, List.append_assoc, List.cons_append, List.nil_append,
    Text.isPrefixOf?_append, marked, targeted, Option.bind_eq_bind, Option.bind_some]
  simp only [Text.isPrefixOf?_cons_cons, ↓reduceIte, Text.isPrefixOf?_nil, Option.bind_some]
  cases Text.cut? closer text <;> rfl

theorem reads_block : block.Reads Spells where
  sound := spells_of_readBlock
  complete {parts _} rest := by
    rintro ⟨formed, rfl⟩
    exact Text.cut?_behind_header (fun body => (⟨parts.negated, parts.target, body⟩ : Block))
      parts.body rest (readBlock_header formed parts.negated)

theorem readBlock_append {block : Block} {written : Text} (spelled : Spells block written)
    (unclosed : ¬ closer <:+: block.body) (rest : Text) :
    readBlock (written ++ rest) = some (block, rest) := by
  obtain ⟨formed, rfl⟩ := spelled
  exact Text.read_unclosed (fun body => (⟨block.negated, block.target, body⟩ : Block)) (by decide)
    (readBlock_header formed block.negated) unclosed rest

end Conditional

namespace Reference

theorem readFilter_append {name list rest : Text} (spelled : SpellsFilter (some name) list)
    (stop : Text.Stops Text.isBlank rest) (ended : Text.Stops Text.isWord rest) :
    readFilter (list ++ rest) = some (name, rest) := by
  obtain ⟨run, before, between, behind, blanks₁, blanks₂, blanks₃, rfl⟩ := spelled
  have bar : Text.Stops Text.isBlank (bars ++ (between ++ (name ++ (behind ++ rest)))) :=
    Text.stops_cons (by decide) _
  have word : Text.Stops Text.isBlank (name ++ (behind ++ rest)) := by
    obtain ⟨head, more, rfl⟩ := List.exists_cons_of_ne_nil run.1
    exact Text.stops_cons (Text.isBlank_of_isWord (run.2 head (by simp))) _
  have behind_name : Text.Stops Text.isWord (behind ++ rest) :=
    Text.stops_append (blanks₃.stops Text.isWord_of_isBlank) ended
  have skipped₁ := Text.skipBlank_append blanks₁ bar
  have skipped₂ := Text.skipBlank_append blanks₂ word
  have named := Text.run?_append run behind_name
  have skipped₃ := Text.skipBlank_append blanks₃ stop
  simp [readFilter, skipped₁, skipped₂, named, skipped₃]

theorem filter_front {name list : Text} (spelled : SpellsFilter (some name) list) :
    ∃ c more, list = c :: more ∧ (Text.isBlank c = true ∨ c = '|') := by
  obtain ⟨_, before, between, behind, blanks, _, _, rfl⟩ := spelled
  cases before with
  | nil => exact ⟨'|', _, rfl, Or.inr rfl⟩
  | cons c before => exact ⟨c, _, rfl, Or.inl (blanks c (by simp))⟩

/-- What follows a target with a filter ends the field, and is not the closer. -/
theorem stops_filter {name list : Text} (spelled : SpellsFilter (some name) list) (rest : Text) :
    Text.Stops Text.isField (list ++ rest) ∧ closer.isPrefixOf? (list ++ rest) = none := by
  obtain ⟨c, more, rfl, blank | rfl⟩ := filter_front spelled
  · refine ⟨Text.stops_cons (Text.isField_of_isBlank blank) _, ?_⟩
    have other : '}' ≠ c := by
      rintro rfl
      exact absurd blank (by decide)
    simp [closer, other]
  · exact ⟨Text.stops_cons (by decide) _, by simp [closer]⟩

theorem readReference_append {reference : Reference} {written : Text} (rest : Text)
    (spelled : reference.Spells written) :
    readReference (written ++ rest) = some (reference, rest) := by
  obtain ⟨target, filter⟩ := reference
  obtain ⟨formed, list, listed, rfl⟩ := spelled
  cases filter with
  | none =>
      have empty : list = [] := listed
      have ended : Text.Stops Text.isField (closer ++ rest) := Text.stops_cons (by decide) _
      have targeted := Target.read_written formed ended
      simp [readReference, empty, targeted]
  | some name =>
      have read : readFilter (list ++ (closer ++ rest)) = some (name, closer ++ rest) :=
        readFilter_append listed (Text.stops_cons (by decide) _) (Text.stops_cons (by decide) _)
      obtain ⟨ended, unclosed⟩ := stops_filter listed (closer ++ rest)
      have targeted := Target.read_written formed ended
      simp [readReference, targeted, unclosed, read]

theorem reads_reference : reference.Reads Spells :=
  .of_read spells_of_readReference readReference_append

end Reference

end Stencil
