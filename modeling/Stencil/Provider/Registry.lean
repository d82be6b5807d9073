import Stencil.Text.Case
import Stencil.Provider
import Stencil.Context

set_option autoImplicit false

namespace Stencil

/-- Makes the provider for a request, or declines. -/
abbrev Factory := Context → Option Provider

namespace Factory

/-- The same values for every request. -/
def fixed (values : Table Value) : Factory := fun _ => some (.ofTable values)

def declining : Factory := fun _ => none

end Factory

/-- Factories by the lowercase form of their names. A later registration replaces an earlier one. -/
structure Registry where
  factories : Table Factory

namespace Registry

def empty : Registry := ⟨∅⟩

instance : Inhabited Registry := ⟨empty⟩

def add (registry : Registry) (name : Text) (factory : Factory) : Registry :=
  ⟨registry.factories.insert (Text.lower name) factory⟩

def addFixed (registry : Registry) (name : Text) (values : Table Value) : Registry :=
  registry.add name (.fixed values)

def merge (registry other : Registry) : Registry :=
  ⟨registry.factories.insertAll other.factories.entries⟩

def factory? (registry : Registry) (name : Text) : Option Factory :=
  registry.factories.get? (Text.lower name)

def contains (registry : Registry) (name : Text) : Bool := (registry.factory? name).isSome

def size (registry : Registry) : Nat := registry.factories.size

def names (registry : Registry) : List Text := registry.factories.keys

theorem factory?_add (registry : Registry) (name other : Text) (factory : Factory) :
    (registry.add name factory).factory? other =
      if Text.lower other = Text.lower name then some factory else registry.factory? other :=
  Table.get?_insert registry.factories (Text.lower name) (Text.lower other) factory

theorem factory?_merge (registry other : Registry) (name : Text) :
    (registry.merge other).factory? name = (other.factory? name).or (registry.factory? name) :=
  Table.get?_insertAll_entries registry.factories other.factories (Text.lower name)

/-- The provider for a namespace, if it has a factory that does not decline. -/
def resolve (registry : Registry) (context : Context) (name : Text) : Option Provider :=
  (registry.factory? name).bind fun factory => factory context

end Registry

inductive Lookup where
  /-- No provider answers for the namespace. -/
  | unavailable
  /-- The provider does not contain the field. -/
  | missing
  | failed (error : ProviderError)
  | found (value : Value)

def Provider.fetch (provider : Provider) (field : Text) : Lookup :=
  if provider.contains field then
    match provider.get field with
    | .ok value => .found value
    | .error error => .failed error
  else .missing

def Registry.lookup (registry : Registry) (context : Context) (name field : Text) : Lookup :=
  match registry.resolve context name with
  | some provider => provider.fetch field
  | none => .unavailable

theorem Provider.get_of_fetch {provider : Provider} {field : Text} {value : Value}
    (found : provider.fetch field = .found value) : provider.get field = .ok value := by
  unfold fetch at found
  split at found
  · cases got : provider.get field with
    | ok held =>
        rw [got] at found
        cases found
        rfl
    | error error => simp [got] at found
  · cases found

theorem Registry.get_of_lookup {registry : Registry} {context : Context} {name field : Text}
    {value : Value} (found : registry.lookup context name field = .found value) :
    ∃ provider, registry.resolve context name = some provider ∧
      provider.get field = .ok value := by
  unfold lookup at found
  cases resolved : registry.resolve context name with
  | none => simp [resolved] at found
  | some provider =>
      rw [resolved] at found
      exact ⟨provider, rfl, provider.get_of_fetch found⟩

end Stencil
