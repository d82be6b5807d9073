import Stencil.Grammar
import Stencil.Text.Class
import Stencil.Provider.Registry

set_option autoImplicit false

namespace Stencil

/-- A field of a namespace, written with a dot between them. -/
structure Target where
  name : Text
  field : Text
deriving DecidableEq, Repr

namespace Target

def written (target : Target) : Text := target.name ++ '.' :: target.field

/-- Reads a target: a word, a dot and a field, both as long as can be. -/
def read (text : Text) : Option (Target × Text) := do
  let (name, text) ← Text.run? Text.isWord text
  let text ← ['.'].isPrefixOf? text
  let (field, rest) ← Text.run? Text.isField text
  return (⟨name, field⟩, rest)

theorem eq_append_of_read {text rest : Text} {target : Target}
    (found : read text = some (target, rest)) : text = target.written ++ rest := by
  simp only [read, Option.bind_eq_bind, Option.bind_eq_some_iff, Option.pure_def,
    Option.some.injEq, Prod.mk.injEq, Prod.exists] at found
  obtain ⟨name, first, named, second, dot, field, third, fielded, rfl, rfl⟩ := found
  rw [Text.eq_append_of_run? named, Text.isPrefixOf?_eq_some_iff.1 dot,
    Text.eq_append_of_run? fielded]
  simp [written]

/-- A name and a field that can stand in a target. -/
def WellFormed (target : Target) : Prop :=
  Text.IsRun Text.isWord target.name ∧ Text.IsRun Text.isField target.field

theorem wellFormed_of_read {text rest : Text} {target : Target}
    (found : read text = some (target, rest)) : target.WellFormed := by
  simp only [read, Option.bind_eq_bind, Option.bind_eq_some_iff, Option.pure_def,
    Option.some.injEq, Prod.mk.injEq, Prod.exists] at found
  obtain ⟨name, first, named, second, _, field, third, fielded, rfl, _⟩ := found
  exact ⟨Text.isRun_of_run? named, Text.isRun_of_run? fielded⟩

/-- A target is read back where the text behind it cannot go on with its field. -/
theorem read_written {target : Target} {rest : Text} (formed : target.WellFormed)
    (stop : Text.Stops Text.isField rest) :
    read (target.written ++ rest) = some (target, rest) := by
  have named : Text.run? Text.isWord (target.name ++ '.' :: (target.field ++ rest)) =
      some (target.name, '.' :: (target.field ++ rest)) :=
    Text.run?_append formed.1 (Text.stops_cons (by decide) _)
  have fielded := Text.run?_append formed.2 stop
  simp [read, written, named, fielded]

def lookup (target : Target) (registry : Registry) (context : Context) : Lookup :=
  registry.lookup context target.name target.field

/-- Asking for a namespace that has no factory is reported. -/
def asking (target : Target) (registry : Registry) : List Event :=
  if registry.contains target.name then [] else [.unknownNamespace target.name]

end Target

end Stencil
