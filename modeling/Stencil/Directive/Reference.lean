import Stencil.Directive.Target

set_option autoImplicit false

namespace Stencil

structure Reference where
  target : Target
  filter : Option Text
deriving DecidableEq, Repr

namespace Reference

def opener : Text := ['{', '{']

def closer : Text := ['}', '}']

def bars : Text := ['|', '|']

/-- Reads the filter of a reference: two bars and a word, with any blanks around both. -/
def readFilter (text : Text) : Option (Text × Text) := do
  let text ← bars.isPrefixOf? (Text.skipBlank text)
  let (filter, text) ← Text.run? Text.isWord (Text.skipBlank text)
  return (filter, Text.skipBlank text)

def readReference (text : Text) : Option (Reference × Text) := do
  let text ← opener.isPrefixOf? text
  let (target, text) ← Target.read text
  match closer.isPrefixOf? text with
  | some rest => return (⟨target, none⟩, rest)
  | none =>
      let (filter, text) ← readFilter text
      let rest ← closer.isPrefixOf? text
      return (⟨target, some filter⟩, rest)

/-- The ways to write what follows the target: nothing, or a filter. -/
def SpellsFilter (filter : Option Text) (written : Text) : Prop :=
  match filter with
  | none => written = []
  | some name =>
      Text.IsRun Text.isWord name ∧
        ∃ before between behind, Text.AllBlank before ∧ Text.AllBlank between ∧
          Text.AllBlank behind ∧ written = before ++ bars ++ between ++ name ++ behind

theorem spells_of_readFilter {text filter rest : Text}
    (found : readFilter text = some (filter, rest)) :
    ∃ written, SpellsFilter (some filter) written ∧ text = written ++ rest := by
  simp only [readFilter, Option.bind_eq_bind, Option.bind_eq_some_iff, Option.pure_def,
    Option.some.injEq, Prod.mk.injEq, Prod.exists] at found
  obtain ⟨first, barred, name, second, run, rfl, rfl⟩ := found
  obtain ⟨before, blank₁, whole₁⟩ := Text.eq_append_skipBlank text
  obtain ⟨between, blank₂, whole₂⟩ := Text.eq_append_skipBlank first
  obtain ⟨behind, blank₃, whole₃⟩ := Text.eq_append_skipBlank second
  refine ⟨_, ⟨Text.isRun_of_run? run, before, between, behind, blank₁, blank₂, blank₃, rfl⟩, ?_⟩
  conv =>
    lhs
    rw [whole₁, Text.isPrefixOf?_eq_some_iff.1 barred, whole₂, Text.eq_append_of_run? run, whole₃]
  simp

def Spells (reference : Reference) (written : Text) : Prop :=
  reference.target.WellFormed ∧
    ∃ list, SpellsFilter reference.filter list ∧
      written = opener ++ reference.target.written ++ list ++ closer

theorem Spells.ne_nil {reference : Reference} {written : Text}
    (spelled : reference.Spells written) : written ≠ [] := by
  obtain ⟨_, list, _, rfl⟩ := spelled
  simp [opener]

theorem spells_of_readReference {text rest : Text} {reference : Reference}
    (found : readReference text = some (reference, rest)) :
    ∃ written, reference.Spells written ∧ text = written ++ rest := by
  simp only [readReference, Option.bind_eq_bind, Option.bind_eq_some_iff, Prod.exists] at found
  obtain ⟨first, opened, target, second, targeted, found⟩ := found
  have formed := Target.wellFormed_of_read targeted
  have whole : text = opener ++ target.written ++ second := by
    rw [Text.isPrefixOf?_eq_some_iff.1 opened, Target.eq_append_of_read targeted, List.append_assoc]
  split at found
  · rename_i third closed
    simp only [Option.pure_def, Option.some.injEq, Prod.mk.injEq] at found
    obtain ⟨rfl, rfl⟩ := found
    refine ⟨_, ⟨formed, [], rfl, rfl⟩, ?_⟩
    rw [whole, Text.isPrefixOf?_eq_some_iff.1 closed]
    simp
  · simp only [Option.bind_eq_some_iff, Option.pure_def, Option.some.injEq, Prod.mk.injEq,
      Prod.exists] at found
    obtain ⟨filter, third, filtered, fourth, closed, rfl, rfl⟩ := found
    obtain ⟨list, spelled, listed⟩ := spells_of_readFilter filtered
    refine ⟨_, ⟨formed, list, spelled, rfl⟩, ?_⟩
    rw [whole, listed, Text.isPrefixOf?_eq_some_iff.1 closed]
    simp

def reference : Grammar Reference where
  read := readReference
  consumes found := by
    obtain ⟨written, spelled, whole⟩ := spells_of_readReference found
    exact ⟨written, spelled.ne_nil, whole⟩

def filtered (filters : Filters) (reference : Reference) (value : Value) :
    Except FilterError Value :=
  match reference.filter with
  | none => .ok value
  | some filter => filters.apply filter reference.target.field value

/-- A reference is replaced by the text of its value, and by nothing if it has none. -/
def emitLookup (filters : Filters) (reference : Reference) : Lookup → Emission
  | .unavailable => .empty
  | .missing => ⟨[], [.referenceMissing reference.target.name reference.target.field]⟩
  | .failed error => ⟨[], [.referenceFailed reference.target.name reference.target.field error]⟩
  | .found value =>
      match filtered filters reference value with
      | .ok value => .silent value.text
      | .error error => ⟨[], [.filterFailed reference.target.name reference.target.field error]⟩

def emit (registry : Registry) (filters : Filters) (context : Context) (reference : Reference) :
    Emission :=
  ⟨[], reference.target.asking registry⟩ ++
    emitLookup filters reference (reference.target.lookup registry context)

def resolve (registry : Registry) (filters : Filters) (context : Context) (text : Text) :
    Emission :=
  reference.substitute (fun _ reference => emit registry filters context reference) text

end Reference

end Stencil
