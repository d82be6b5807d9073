import Stencil.Text.Case
import Stencil.Value

set_option autoImplicit false

namespace Stencil

inductive FilterError where
  | unknown (name : Text)
  | failed (filter reason : Text)
deriving DecidableEq, Repr

def FilterError.message : FilterError → String
  | unknown name => s!"unknown filter '{String.ofList name}'"
  | failed filter reason => s!"filter '{String.ofList filter}' failed: {String.ofList reason}"

/-- Gets the name of the field and its value. -/
abbrev Filter := Text → Value → Except FilterError Value

/-- Filters by the uppercase form of their names. A later registration replaces an earlier one. -/
structure Filters where
  table : Table Filter

namespace Filters

def empty : Filters := ⟨∅⟩

def add (filters : Filters) (name : Text) (filter : Filter) : Filters :=
  ⟨filters.table.insert (Text.upper name) filter⟩

def find? (filters : Filters) (name : Text) : Option Filter :=
  filters.table.get? (Text.upper name)

def contains (filters : Filters) (name : Text) : Bool := (filters.find? name).isSome

def names (filters : Filters) : List Text := filters.table.keys

def apply (filters : Filters) (name field : Text) (value : Value) : Except FilterError Value :=
  match filters.find? name with
  | some filter => filter field value
  | none => .error (.unknown name)

end Filters

end Stencil
