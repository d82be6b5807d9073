import Stencil.Directive.Target

set_option autoImplicit false

namespace Stencil.Loop

structure Block where
  target : Target
  item : Text
  body : Text
deriving DecidableEq, Repr

def opener : Text := ['{', '#', 'f', 'o', 'r', 'e', 'a', 'c', 'h', ' ']

def arrow : Text := [' ', '-', '>', ' ']

def closer : Text := ['{', '/', 'f', 'o', 'r', 'e', 'a', 'c', 'h', '}']

def header (target : Target) (item : Text) : Text :=
  opener ++ target.written ++ arrow ++ item ++ ['}']

def readBlock (text : Text) : Option (Block × Text) := do
  let text ← opener.isPrefixOf? text
  let (target, text) ← Target.read text
  let text ← arrow.isPrefixOf? text
  let (item, text) ← Text.run? Text.isWord text
  let text ← ['}'].isPrefixOf? text
  let (body, rest) ← Text.cut? closer text
  return (⟨target, item, body⟩, rest)

def Spells (block : Block) (written : Text) : Prop :=
  block.target.WellFormed ∧ Text.IsRun Text.isWord block.item ∧
    written = header block.target block.item ++ block.body ++ closer

theorem Spells.ne_nil {block : Block} {written : Text} (spelled : Spells block written) :
    written ≠ [] := by
  rw [spelled.2.2]
  simp [header, opener]

theorem spells_of_readBlock {text rest : Text} {block : Block}
    (found : readBlock text = some (block, rest)) :
    ∃ written, Spells block written ∧ text = written ++ rest := by
  simp only [readBlock, Option.bind_eq_bind, Option.bind_eq_some_iff, Option.pure_def,
    Option.some.injEq, Prod.mk.injEq, Prod.exists] at found
  obtain ⟨first, opened, target, second, targeted, third, arrowed, item, fourth, run, fifth, ended,
    body, sixth, closed, rfl, rfl⟩ := found
  refine ⟨_, ⟨Target.wellFormed_of_read targeted, Text.isRun_of_run? run, rfl⟩, ?_⟩
  rw [Text.isPrefixOf?_eq_some_iff.1 opened, Target.eq_append_of_read targeted,
    Text.isPrefixOf?_eq_some_iff.1 arrowed, Text.eq_append_of_run? run,
    Text.isPrefixOf?_eq_some_iff.1 ended, Text.eq_append_of_cut? closed]
  simp [header]

def block : Grammar Block where
  read := readBlock
  consumes found := by
    obtain ⟨written, spelled, whole⟩ := spells_of_readBlock found
    exact ⟨written, spelled.ne_nil, whole⟩

/-- The field `ALL`, in any letters, stands for all values of the namespace. -/
def isAll (field : Text) : Bool := Text.sameLetters field ['A', 'L', 'L']

def elementsOf : Lookup → List Value
  | .found (.array items) => items
  | _ => []

/-- The elements a target names: all values in order, or the items of the field's array. -/
def elements (registry : Registry) (context : Context) (target : Target) : List Value :=
  if isAll target.field then
    match registry.resolve context target.name with
    | some provider => provider.all.values
    | none => []
  else elementsOf (target.lookup registry context)

def report (registry : Registry) (context : Context) (target : Target) : List Event :=
  target.asking registry ++
    if isAll target.field then []
    else
      match target.lookup registry context with
      | .failed error => [.loopFailed target.name target.field error]
      | _ => []

def instantiate (item body : Text) (element : Value) : Text :=
  Grammar.replaceLiteral '{' ('{' :: item ++ ['}', '}']) element.text body

/-- The body for each element in order, null ones apart. -/
def unrolled (item body : Text) (elements : List Value) : Text :=
  (elements.filter fun element => !element.isNull).flatMap (instantiate item body)

/-- The body once for each element that is not null. A block whose elements cannot be had is
removed. -/
def emit (registry : Registry) (context : Context) (block : Block) : Emission :=
  ⟨unrolled block.item block.body (elements registry context block.target),
    report registry context block.target⟩

def unroll (registry : Registry) (context : Context) (text : Text) : Emission :=
  block.substitute (fun _ block => emit registry context block) text

end Stencil.Loop
