import Stencil.Proofs.Scan.Locality
import Stencil.Proofs.Scan.Stages

set_option autoImplicit false

namespace Stencil.Metadata

/-- The ways to write an entry. A space behind the colon never begins the value. -/
def SpellsEntry (parts : Text × Text) (written : Text) : Prop :=
  Text.IsRun Text.isKey parts.1 ∧ ']' ∉ parts.2 ∧
    ∃ space, (space = [' '] ∨ space = [] ∧ Text.Stops (· == ' ') parts.2) ∧
      written = ['['] ++ parts.1 ++ [':'] ++ space ++ parts.2 ++ [']']

theorem dropSpace_of_stops {text : Text} (stops : Text.Stops (· == ' ') text) :
    dropSpace text = text := by
  unfold dropSpace
  split
  · rename_i text
    have impossible := stops ' ' rfl
    cases impossible
  · rfl

theorem dropSpace_cases (text : Text) :
    text = ' ' :: dropSpace text ∨ Text.Stops (· == ' ') text ∧ dropSpace text = text := by
  cases text with
  | nil =>
      right
      refine ⟨?_, rfl⟩
      intro c front
      cases front
  | cons c text =>
      by_cases space : c = ' '
      · left
        rw [space]
        rfl
      · right
        have stops : Text.Stops (· == ' ') (c :: text) :=
          Text.stops_cons (by simpa using space) text
        exact ⟨stops, dropSpace_of_stops stops⟩

theorem spells_of_readEntry {text rest : Text} {parts : Text × Text}
    (found : readEntry text = some (parts, rest)) :
    ∃ written, SpellsEntry parts written ∧ text = written ++ rest := by
  simp only [readEntry, Option.bind_eq_bind, Option.bind_eq_some_iff, Option.pure_def,
    Option.some.injEq, Prod.mk.injEq, Prod.exists] at found
  obtain ⟨first, opened, key, second, run, third, colon, value, behind, closed, rfl, rfl⟩ := found
  have whole : text = '[' :: (key ++ ':' :: third) := by
    rw [Text.isPrefixOf?_eq_some_iff.1 opened, Text.eq_append_of_run? run,
      Text.isPrefixOf?_eq_some_iff.1 colon]
    rfl
  obtain ⟨unclosed, split⟩ := Text.cut?_singleton_iff.1 closed
  have named := Text.isRun_of_run? run
  rcases dropSpace_cases third with space | ⟨stops, same⟩
  · refine ⟨_, ⟨named, unclosed, [' '], Or.inl rfl, rfl⟩, ?_⟩
    rw [whole, space, split]
    simp
  · rw [same] at split
    have valueStops : Text.Stops (· == ' ') value := by
      apply Text.stops_of_append
      rwa [split] at stops
    refine ⟨_, ⟨named, unclosed, [], Or.inr ⟨rfl, valueStops⟩, rfl⟩, ?_⟩
    rw [whole, split]
    simp

theorem readEntry_append {parts : Text × Text} {written : Text} (rest : Text)
    (spelled : SpellsEntry parts written) : readEntry (written ++ rest) = some (parts, rest) := by
  obtain ⟨named, unclosed, space, spaced, rfl⟩ := spelled
  have opened := Text.run?_append named
    (Text.stops_cons (c := ':') (by decide) (space ++ (parts.2 ++ ']' :: rest)))
  have closed : Text.cut? [']'] (parts.2 ++ ']' :: rest) = some (parts.2, rest) :=
    Text.cut?_singleton_iff.2 ⟨unclosed, rfl⟩
  have dropped : dropSpace (space ++ (parts.2 ++ ']' :: rest)) = parts.2 ++ ']' :: rest := by
    rcases spaced with rfl | ⟨rfl, stops⟩
    · rfl
    · rw [List.nil_append]
      apply dropSpace_of_stops
      exact Text.stops_append stops (Text.stops_cons (by decide) rest)
  simp [readEntry, opened, dropped, closed]

theorem reads_entry : entry.Reads SpellsEntry :=
  .of_read spells_of_readEntry readEntry_append

theorem entry_opensWith : Spelling.OpensWith SpellsEntry '[' := by
  rintro parts written ⟨_, _, space, _, rfl⟩
  exact ⟨_, rfl⟩

theorem entriesOf_eq (body : Text) : entriesOf body = (entry.cut body).parts :=
  Grammar.hits_eq_parts entry body

/-- The entries that a document lists, by the cut of the document at its blocks and the cuts of
their bodies at the entries. -/
def Lists (document : Text) (entries : List (Text × Text)) : Prop :=
  ∃ (blocks : Cut Text) (inside : Text → Cut (Text × Text)), Cut.Only Spells document blocks ∧
    (∀ body ∈ blocks.parts, Cut.Only SpellsEntry body (inside body)) ∧
    entries = blocks.parts.flatMap fun body => (inside body).parts

theorem lists_entries (document : Text) : Lists document (entries document) := by
  refine ⟨block.cut document, entry.cut, reads_block.only_cut document, ?_, ?_⟩
  · intro body _
    exact reads_entry.only_cut body
  · have byCut : entriesOf = fun body => (entry.cut body).parts := funext entriesOf_eq
    rw [entries_eq, byCut]

theorem Lists.eq_entries {document : Text} {listed : List (Text × Text)}
    (lists : Lists document listed) : listed = entries document := by
  obtain ⟨blocks, inside, only, bodies, rfl⟩ := lists
  have same := only.unique _ (reads_block.proper_cut document) (Grammar.whole_cut block document)
  have inner : ∀ body ∈ blocks.parts, (inside body).parts = entriesOf body := by
    intro body member
    have onlyBody := bodies body member
    rw [entriesOf_eq,
      onlyBody.unique _ (reads_entry.proper_cut body) (Grammar.whole_cut entry body)]
  rw [entries_eq, same, List.flatMap_def, List.flatMap_def, List.map_congr_left inner]

end Stencil.Metadata
