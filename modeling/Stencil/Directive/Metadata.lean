import Stencil.Grammar
import Stencil.Text.Class

set_option autoImplicit false

namespace Stencil.Metadata

def opener : Text := ['{', '{', ':']

def closer : Text := [':', '}', '}']

/-- Reads a block up to the first closer: its body. -/
def readBlock (text : Text) : Option (Text × Text) :=
  (opener.isPrefixOf? text).bind (Text.cut? closer)

def Spells (body written : Text) : Prop := written = opener ++ body ++ closer

theorem Spells.ne_nil {body written : Text} (spelled : Spells body written) : written ≠ [] := by
  rw [spelled]
  simp [opener]

theorem spells_of_readBlock {text body rest : Text} (found : readBlock text = some (body, rest)) :
    ∃ written, Spells body written ∧ text = written ++ rest := by
  obtain ⟨inner, opened, closed⟩ := Option.bind_eq_some_iff.1 found
  refine ⟨_, rfl, ?_⟩
  rw [Text.isPrefixOf?_eq_some_iff.1 opened, Text.eq_append_of_cut? closed]
  simp

def block : Grammar Text where
  read := readBlock
  consumes found := by
    obtain ⟨written, spelled, whole⟩ := spells_of_readBlock found
    exact ⟨written, spelled.ne_nil, whole⟩

/-- The text without the one space that may stand at its front. -/
def dropSpace : Text → Text
  | ' ' :: text => text
  | text => text

theorem eq_append_dropSpace (text : Text) :
    ∃ space, text = space ++ dropSpace text ∧ (space = [] ∨ space = [' ']) := by
  unfold dropSpace
  split
  · exact ⟨[' '], rfl, .inr rfl⟩
  · exact ⟨[], rfl, .inl rfl⟩

def readEntry (text : Text) : Option ((Text × Text) × Text) := do
  let text ← ['['].isPrefixOf? text
  let (key, text) ← Text.run? Text.isKey text
  let text ← [':'].isPrefixOf? text
  let (value, rest) ← Text.cut? [']'] (dropSpace text)
  return ((key, value), rest)

theorem eq_append_of_readEntry {text rest : Text} {parts : Text × Text}
    (found : readEntry text = some (parts, rest)) :
    ∃ space, (space = [] ∨ space = [' ']) ∧
      text = ['['] ++ parts.1 ++ [':'] ++ space ++ parts.2 ++ [']'] ++ rest := by
  simp only [readEntry, Option.bind_eq_bind, Option.bind_eq_some_iff, Option.pure_def,
    Option.some.injEq, Prod.mk.injEq, Prod.exists] at found
  obtain ⟨first, opened, name, second, run, third, colon, inner, behind, closed, rfl, rfl⟩ :=
    found
  obtain ⟨space, spaced, which⟩ := eq_append_dropSpace third
  refine ⟨space, which, ?_⟩
  rw [Text.isPrefixOf?_eq_some_iff.1 opened, Text.eq_append_of_run? run,
    Text.isPrefixOf?_eq_some_iff.1 colon, spaced, Text.eq_append_of_cut? closed]
  simp

def entry : Grammar (Text × Text) where
  read := readEntry
  consumes found := by
    obtain ⟨space, _, whole⟩ := eq_append_of_readEntry found
    exact ⟨_, by simp, whole⟩

/-- The entries of one block. Malformed ones, and all else inside the block, are passed over. -/
def entriesOf (body : Text) : List (Text × Text) := entry.hits body

def entries (text : Text) : List (Text × Text) := (block.hits text).flatMap entriesOf

def strip (text : Text) : Text := block.remove text

end Stencil.Metadata
