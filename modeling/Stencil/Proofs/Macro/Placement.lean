import Stencil.Proofs.Macro.Header
import Stencil.Proofs.Scan.Openers
import Stencil.Proofs.Scan.Stages

set_option autoImplicit false

namespace Stencil

namespace Macro

/-- Definitions between texts. No text holds the opener of a definition, and no body the closer. -/
structure Placed (document : Cut Definition) : Prop where
  unopened : ∀ gap ∈ document.stretches, ¬ opener <:+: gap
  spelled : document.Spelled SpellsDefinition
  unclosed : ∀ definition ∈ document.parts, ¬ closer <:+: definition.body

/-- A definition begins in no text without the opener, whatever definition or end comes behind. -/
theorem clear_of_unopened {gap rest : Text} (unopened : ¬ opener <:+: gap)
    (front : ∀ c ∈ rest.head?, c = '{') : Spelling.Clear SpellsDefinition gap rest := by
  apply Spelling.clear_of_marked _ front
  intro definition written spelled
  exact ⟨_, by decide, definition_beginsWith_opener definition written spelled, unopened⟩

theorem SpellsDefinition.front {definition : Definition} {written : Text}
    (spelled : SpellsDefinition definition written) (rest : Text) :
    ∀ c ∈ (written ++ rest).head?, c = '{' := by
  obtain ⟨more, rfl⟩ := definition_beginsWith_opener definition written spelled
  simp [opener]

/-- The definitions that stand in a document are those that are found in it. -/
theorem Placed.proper {document : Cut Definition} (placed : Placed document) :
    document.Proper SpellsDefinition := by
  induction document with
  | last gap => exact clear_of_unopened (placed.unopened gap (by simp [Cut.stretches])) (by simp)
  | next gap written definition more ih =>
      have spelled : SpellsDefinition definition written := placed.spelled.head
      have unopened : ¬ opener <:+: gap := placed.unopened gap (by simp [Cut.stretches])
      have unclosed : ¬ closer <:+: definition.body :=
        placed.unclosed definition (by simp [Cut.parts, Cut.directives])
      have read := readDefinition_append spelled unclosed more.whole
      have behind : Placed more :=
        { unopened := fun other member => placed.unopened other (by simp [Cut.stretches, member])
          spelled := placed.spelled.tail
          unclosed := fun other member =>
            placed.unclosed other (List.mem_cons_of_mem definition member) }
      exact ⟨clear_of_unopened unopened (spelled.front more.whole),
        reads_definition.shortest_of_read read, ih behind⟩

/-- The same definitions at other places, between texts that hold no opener either. -/
theorem Placed.of_perm {document moved : Cut Definition} (placed : Placed document)
    (order : moved.directives.Perm document.directives)
    (unopened : ∀ gap ∈ moved.stretches, ¬ opener <:+: gap) : Placed moved where
  unopened := unopened
  spelled written definition member := placed.spelled written definition (order.mem_iff.1 member)
  unclosed definition member :=
    placed.unclosed definition ((order.map Prod.snd).mem_iff.1 member)

/-- The last definition of a name. -/
def lastOf (definitions : List Definition) (name : Text) : Option Definition :=
  definitions.reverse.find? fun definition => definition.name = name

theorem lookup_named (definitions : List Definition) (name : Text) :
    (definitions.map fun definition => (definition.name, definition)).lookup name =
      definitions.find? fun definition => definition.name = name := by
  induction definitions with
  | nil => rfl
  | cons definition definitions ih =>
      rw [List.map_cons, lookup_cons_eq_ite, ih]
      by_cases same : definition.name = name
      · simp [same]
      · simp [same, Ne.symm same]

theorem get?_tableOf (definitions : List Definition) (name : Text) :
    (tableOf definitions).get? name = lastOf definitions name := by
  have updated := Table.updated_insertAll ∅
    (definitions.map fun definition => (definition.name, definition))
  have newest := updated.get?_of_empty name
  rw [← List.map_reverse, lookup_named] at newest
  exact newest

theorem lastOf_eq_some_iff {definitions : List Definition}
    (distinct : (definitions.map Definition.name).Nodup) {name : Text} {definition : Definition} :
    lastOf definitions name = some definition ↔
      definition ∈ definitions ∧ definition.name = name := by
  have keys : ((definitions.map fun definition => (definition.name, definition)).map
      Prod.fst).Nodup := by
    rwa [List.map_map]
  rw [← get?_tableOf, Table.get?_eq_some_iff, tableOf, Table.entries_ofList keys, List.mem_map]
  constructor
  · rintro ⟨other, member, same⟩
    cases same
    exact ⟨member, rfl⟩
  · rintro ⟨member, rfl⟩
    exact ⟨definition, member, rfl⟩

theorem lastOf_eq_of_perm {first second : List Definition} (order : first.Perm second)
    (distinct : (second.map Definition.name).Nodup) : lastOf first = lastOf second := by
  have also : (first.map Definition.name).Nodup := (order.map Definition.name).nodup_iff.2 distinct
  funext name
  ext definition
  rw [lastOf_eq_some_iff also, lastOf_eq_some_iff distinct, order.mem_iff]

/-- What a usage becomes under some definitions: the body of the last one of its name, or itself
with a report. -/
def answer (definitions : List Definition) (written : Text) (usage : Usage) : Emission :=
  match lastOf definitions usage.name with
  | some definition => .silent (definition.expand usage.arguments)
  | none => ⟨written, [.unknownMacro usage.name]⟩

theorem emit_tableOf (definitions : List Definition) :
    emit (tableOf definitions) = answer definitions := by
  funext written usage
  cases found : lastOf definitions usage.name <;> simp [emit, answer, get?_tableOf, found]

theorem expand_of_proper {document : Cut Definition} (proper : document.Proper SpellsDefinition) :
    expand document.whole = (usage.cut document.gaps).rewrite (answer document.parts) := by
  rw [expand_eq, reads_definition.cut_whole proper, emit_tableOf]

/-- A document with definitions between texts becomes what the texts put together become, each usage
in them by the last definition of its name, or by none and then as it is written. No other
definition is found in the document, whatever the texts look like together. Definitions of different
names can be put in another order and at other places if no definition begins in the texts that then
stand between them. -/
theorem expand_of_placed {document : Cut Definition} (placed : Placed document) :
    Cut.Only SpellsDefinition document.whole document ∧
    (∃ usages, Cut.Only SpellsUsage document.gaps usages ∧
      expand document.whole = usages.rewrite (answer document.parts)) ∧
    ∀ moved : Cut Definition, moved.gaps = document.gaps →
      moved.directives.Perm document.directives →
        ((∀ gap ∈ moved.stretches, ¬ opener <:+: gap) → moved.Proper SpellsDefinition) ∧
        ((document.parts.map Definition.name).Nodup → moved.Proper SpellsDefinition →
          expand moved.whole = expand document.whole) := by
  have proper := placed.proper
  refine ⟨?_, ⟨_, reads_usage.only_cut document.gaps, expand_of_proper proper⟩, ?_⟩
  · have only := reads_definition.only_cut document.whole
    rwa [reads_definition.cut_whole proper] at only
  · intro moved gaps order
    refine ⟨fun unopened => (placed.of_perm order unopened).proper, ?_⟩
    intro distinct elsewhere
    have parts : moved.parts.Perm document.parts := order.map Prod.snd
    have answers : answer moved.parts = answer document.parts := by
      funext written usage
      rw [answer, lastOf_eq_of_perm parts distinct, answer]
    rw [expand_of_proper elsewhere, expand_of_proper proper, gaps, answers]

/-- Two definitions behind their usages change places. Between them stand the two halves of what
looks like a third one when they are gone. -/
theorem expand_of_placed_halves :
    let first : Definition := ⟨['a'], [['x']], ['{', '{', 'x', '}', '}']⟩
    let second : Definition := ⟨['b'], [], "#a()#".toList⟩
    let third := definitionText ['c'] [] ['d']
    let one := definitionText ['a'] [' ', 'x'] first.body
    let other := definitionText ['b'] [] second.body
    let usages := "#a(\"1\")##b()##c()#".toList
    let document : Cut Definition :=
      .next (usages ++ third.take 5) one first (.next (third.drop 5) other second (.last []))
    let moved : Cut Definition :=
      .next (usages ++ third.take 5) other second (.next (third.drop 5) one first (.last []))
    expand moved.whole = expand document.whole ∧
      (expand document.whole).text = "1#a()##c()#".toList ++ third := by
  intro first second third one other usages document moved
  have heads : Heads ['a'] [' ', 'x'] :=
    ⟨by decide, List.all_eq_true.1 (by decide), Text.stops_cons (by decide) ['x']⟩
  have bare : Heads ['b'] [] := ⟨by decide, by simp, by simp [Text.Stops]⟩
  have named : SpellsDefinition first one := heads.spells first.body
  have also : SpellsDefinition second other := bare.spells second.body
  have placed : Placed document :=
    { unopened := by decide +kernel
      spelled := by
        rintro _ _ (_ | ⟨_, _ | ⟨_, none⟩⟩)
        · exact named
        · exact also
        · cases none
      unclosed := by decide +kernel }
  obtain ⟨_, _, movable⟩ := expand_of_placed placed
  obtain ⟨proper, same⟩ := movable moved rfl (List.Perm.swap _ _ _)
  exact ⟨same (by decide) (proper (by decide +kernel)), by decide +kernel⟩

/-- A definition cannot always be moved from between two texts: the texts may be the halves of a
definition. -/
theorem not_expand_of_moved :
    ¬ ∀ (first second third written other : Text) (one two : Definition),
      ¬ opener <:+: first → ¬ opener <:+: second → ¬ opener <:+: third →
        SpellsDefinition one written → SpellsDefinition two other → ¬ closer <:+: one.body →
        ¬ closer <:+: two.body → one.name ≠ two.name →
          (expand (first ++ written ++ other ++ second ++ third)).text =
            (expand (first ++ written ++ second ++ other ++ third)).text := by
  intro movable
  let third := definitionText ['c'] [] ['d']
  have heads (c : Char) (word : Text.isWord c = true) : Heads [c] [] :=
    ⟨⟨by simp, by simpa using word⟩, by simp, by simp [Text.Stops]⟩
  have same := movable [] (third.take 5) (third.drop 5) _ _ _ _ (by decide) (by decide)
    (by decide +kernel) ((heads 'a' (by decide)).spells ['1'])
    ((heads 'b' (by decide)).spells ['2']) (by decide) (by decide) (by decide)
  revert same
  decide +kernel

end Macro

end Stencil
