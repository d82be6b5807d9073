import Stencil.Directive.Target

set_option autoImplicit false

namespace Stencil.Conditional

structure Block where
  negated : Bool
  target : Target
  body : Text
deriving DecidableEq, Repr

def opener : Text := ['{', '#', 'i', 'f', ' ']

def closer : Text := ['{', '/', 'i', 'f', '}']

def header (negated : Bool) (target : Target) : Text :=
  opener ++ (if negated then ['!'] else []) ++ target.written ++ ['}']

/-- Reads the mark of a negated test, if there is one. -/
def readMark : Text → Bool × Text
  | '!' :: text => (true, text)
  | text => (false, text)

theorem eq_append_readMark (text : Text) :
    text = (if (readMark text).1 then ['!'] else []) ++ (readMark text).2 := by
  unfold readMark
  split <;> simp

/-- Reads a block up to the first closer. -/
def readBlock (text : Text) : Option (Block × Text) := do
  let text ← opener.isPrefixOf? text
  let (negated, text) := readMark text
  let (target, text) ← Target.read text
  let text ← ['}'].isPrefixOf? text
  let (body, rest) ← Text.cut? closer text
  return (⟨negated, target, body⟩, rest)

def Spells (block : Block) (written : Text) : Prop :=
  block.target.WellFormed ∧
    written = header block.negated block.target ++ block.body ++ closer

theorem Spells.ne_nil {block : Block} {written : Text} (spelled : Spells block written) :
    written ≠ [] := by
  rw [spelled.2]
  simp [header, opener]

theorem spells_of_readBlock {text rest : Text} {block : Block}
    (found : readBlock text = some (block, rest)) :
    ∃ written, Spells block written ∧ text = written ++ rest := by
  simp only [readBlock, Option.bind_eq_bind, Option.bind_eq_some_iff, Option.pure_def,
    Option.some.injEq, Prod.mk.injEq, Prod.exists] at found
  obtain ⟨first, opened, target, second, targeted, third, ended, body, fourth, closed, rfl, rfl⟩ :=
    found
  refine ⟨_, ⟨Target.wellFormed_of_read targeted, rfl⟩, ?_⟩
  rw [Text.isPrefixOf?_eq_some_iff.1 opened]
  conv => lhs; rw [eq_append_readMark first]
  rw [Target.eq_append_of_read targeted, Text.isPrefixOf?_eq_some_iff.1 ended,
    Text.eq_append_of_cut? closed]
  simp [header]

def block : Grammar Block where
  read := readBlock
  consumes found := by
    obtain ⟨written, spelled, whole⟩ := spells_of_readBlock found
    exact ⟨written, spelled.ne_nil, whole⟩

/-- A block keeps its body if its target is true, or is not true where the test is negated, and
vanishes otherwise. A block whose target has no value stays as it is written. -/
def emit (registry : Registry) (context : Context) (written : Text) (block : Block) : Emission :=
  let target := block.target
  match target.lookup registry context with
  | .found value =>
      ⟨if value.isTrue != block.negated then block.body else [], target.asking registry⟩
  | .failed error =>
      ⟨written, target.asking registry ++ [.conditionFailed target.name target.field error]⟩
  | _ => ⟨written, target.asking registry⟩

section

variable {registry : Registry} {context : Context} {block : Block} {written : Text}

theorem emit_text_of_found {value : Value}
    (found : block.target.lookup registry context = .found value) :
    (emit registry context written block).text =
      if value.isTrue != block.negated then block.body else [] := by
  simp only [emit, found]

theorem emit_text_of_not_found
    (valueless : ∀ value, block.target.lookup registry context ≠ .found value) :
    (emit registry context written block).text = written := by
  cases looked : block.target.lookup registry context with
  | found value => exact absurd looked (valueless value)
  | _ => simp only [emit, looked]

end

def settle (registry : Registry) (context : Context) (text : Text) : Emission :=
  block.substitute (emit registry context) text

end Stencil.Conditional
