import Stencil.Value

set_option autoImplicit false

namespace Stencil

inductive ProviderError where
  | missingField (name : Text)
  | lookup (field reason : Text)
deriving DecidableEq, Repr

def ProviderError.message : ProviderError → String
  | missingField name => s!"provider has no field '{String.ofList name}'"
  | lookup field reason =>
      s!"lookup of '{String.ofList field}' failed: {String.ofList reason}"

/-- Three views of the same fields: whether one is there, its value, and all of them. -/
structure Provider where
  contains : Text → Bool
  get : Text → Except ProviderError Value
  all : Table Value

namespace Provider

/-- A provider of given answers, a missing one being an error. -/
def ofLookup (find : Text → Option Value) (all : Table Value) : Provider where
  contains name := (find name).isSome
  get name :=
    match find name with
    | some value => .ok value
    | none => .error (.missingField name)
  all := all

theorem get_ofLookup {find : Text → Option Value} {all : Table Value} {name : Text}
    {value : Value} : (ofLookup find all).get name = .ok value ↔ find name = some value := by
  simp only [ofLookup]
  cases find name <;> simp

def ofTable (values : Table Value) : Provider := ofLookup values.get? values

def ofValue? (value : Value) : Option Provider := value.asObject?.map ofTable

def ofTexts (texts : Table Text) : Provider := ofTable (texts.map .string)

/-- The part of a name before its first at sign, and the part after it. -/
def splitName? (name : Text) : Option (Text × Text) := Text.cut? ['@'] name

/-- The value under `section@key`. -/
def findInSections (sections : Table Value) (name : Text) : Option Value := do
  let (heading, key) ← splitName? name
  let fields ← (← sections.get? heading).asObject?
  fields.get? key

/-- The entries `section@key` of every section that is an object, in order. -/
def flatten (sections : Table Value) : List (Text × Value) :=
  sections.entries.flatMap fun (heading, value) =>
    match value.asObject? with
    | none => []
    | some fields => fields.entries.map fun (key, value) => (heading ++ '@' :: key, value)

def ofSections (sections : Table Value) : Provider :=
  ofLookup (findInSections sections) (Table.ofList (flatten sections))

end Provider

end Stencil
