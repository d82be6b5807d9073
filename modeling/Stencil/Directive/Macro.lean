import Stencil.Grammar
import Stencil.Text.Class

set_option autoImplicit false

namespace Stencil.Macro

structure Definition where
  name : Text
  parameters : List Text
  body : Text
deriving DecidableEq, Repr

structure Usage where
  name : Text
  arguments : List Text
deriving DecidableEq, Repr

def opener : Text := ['{', '#', 'm', 'a', 'c', 'r', 'o', ' ']

def closer : Text := ['{', '/', 'm', 'a', 'c', 'r', 'o', '}']

/-- A character between the name of a definition and the end of its header. -/
def isParameterList (c : Char) : Bool := Text.isWord c || Text.isBlank c

def readDefinition (text : Text) : Option (Definition × Text) := do
  let text ← opener.isPrefixOf? text
  let (name, text) ← Text.run? Text.isWord text
  let inside ← ['}'].isPrefixOf? (text.dropWhile isParameterList)
  let (body, rest) ← Text.cut? closer inside
  return (⟨name, Text.words (text.takeWhile isParameterList), body⟩, rest)

/-- The ways to write a definition. The name is as long as can be, so that what follows it does not
begin with a character of a word. -/
def SpellsDefinition (definition : Definition) (written : Text) : Prop :=
  Text.IsRun Text.isWord definition.name ∧
    ∃ list, (∀ c ∈ list, isParameterList c) ∧ (∀ c ∈ list.head?, Text.isWord c = false) ∧
      definition.parameters = Text.words list ∧
      written = opener ++ definition.name ++ list ++ ['}'] ++ definition.body ++ closer

theorem SpellsDefinition.ne_nil {definition : Definition} {written : Text}
    (spelled : SpellsDefinition definition written) : written ≠ [] := by
  obtain ⟨_, list, _, _, _, rfl⟩ := spelled
  simp [opener]

theorem spells_of_readDefinition {text rest : Text} {definition : Definition}
    (found : readDefinition text = some (definition, rest)) :
    ∃ written, SpellsDefinition definition written ∧ text = written ++ rest := by
  simp only [readDefinition, Option.bind_eq_bind, Option.bind_eq_some_iff, Option.pure_def,
    Option.some.injEq, Prod.mk.injEq, Prod.exists] at found
  obtain ⟨first, opened, name, second, run, third, ended, body, behind, closed, rfl, rfl⟩ := found
  have stop : ∀ c ∈ (second.takeWhile isParameterList).head?, Text.isWord c = false := by
    intro c front
    refine Text.stop_of_run? run c ?_
    cases second with
    | nil => exact front
    | cons head second =>
        rw [List.takeWhile_cons] at front
        split at front
        · exact front
        · cases front
  refine ⟨_, ⟨Text.isRun_of_run? run, second.takeWhile isParameterList,
    List.all_eq_true.1 List.all_takeWhile, stop, rfl, rfl⟩, ?_⟩
  rw [Text.isPrefixOf?_eq_some_iff.1 opened, Text.eq_append_of_run? run]
  conv => lhs; rw [← List.takeWhile_append_dropWhile (p := isParameterList) (l := second)]
  rw [Text.isPrefixOf?_eq_some_iff.1 ended, Text.eq_append_of_cut? closed]
  simp

def definition : Grammar Definition where
  read := readDefinition
  consumes found := by
    obtain ⟨written, spelled, whole⟩ := spells_of_readDefinition found
    exact ⟨written, spelled.ne_nil, whole⟩

theorem length_skipBlank_le (text : Text) : (Text.skipBlank text).length ≤ text.length := by
  simpa [Text.skipBlank] using (List.dropWhile_sublist (p := Text.isBlank) (l := text)).length_le

theorem length_lt_of_quoted {text inside argument rest : Text}
    (quoted : Text.skipBlank text = '"' :: inside)
    (closed : Text.cut? ['"'] inside = some (argument, rest)) : rest.length < text.length := by
  have bound := length_skipBlank_le text
  rw [quoted, Text.eq_append_of_cut? closed] at bound
  simp only [List.length_cons, List.length_append] at bound
  omega

/-- Reads quoted arguments with any blanks around them, as many as there are: their texts, and
what follows them. -/
def readArguments (text : Text) : List Text × Text :=
  match _quoted : Text.skipBlank text with
  | '"' :: inside =>
      match _closed : Text.cut? ['"'] inside with
      | some (argument, rest) =>
          let (arguments, rest) := readArguments rest
          (argument :: arguments, rest)
      | none => ([], '"' :: inside)
  | rest => ([], rest)
termination_by text.length
decreasing_by exact length_lt_of_quoted _quoted _closed

inductive SpellsArguments : List Text → Text → Prop where
  | none {blank : Text} (blanks : Text.AllBlank blank) : SpellsArguments [] blank
  | more {blank argument list : Text} {arguments : List Text} (blanks : Text.AllBlank blank)
      (unquoted : '"' ∉ argument) (others : SpellsArguments arguments list) :
      SpellsArguments (argument :: arguments) (blank ++ '"' :: argument ++ '"' :: list)

theorem spells_of_readArguments (text : Text) :
    ∃ written, SpellsArguments (readArguments text).1 written ∧
      text = written ++ (readArguments text).2 := by
  obtain ⟨blank, blanks, whole⟩ := Text.eq_append_skipBlank text
  fun_induction readArguments text generalizing blank with
  | case1 text inside quoted argument rest closed arguments behind same ih =>
      obtain ⟨absent, split⟩ := Text.cut?_singleton_iff.1 closed
      obtain ⟨more, allMore, wholeMore⟩ := Text.eq_append_skipBlank rest
      obtain ⟨list, spelled, listed⟩ := ih more allMore wholeMore
      rw [same] at spelled listed
      refine ⟨_, .more blanks absent spelled, ?_⟩
      rw [whole, quoted, split]
      simp [listed]
  | case2 text inside quoted unclosed => exact ⟨blank, .none blanks, by rw [← quoted, ← whole]⟩
  | case3 text _ => exact ⟨blank, .none blanks, whole⟩

def readUsage (text : Text) : Option (Usage × Text) := do
  let text ← ['#'].isPrefixOf? text
  let (name, text) ← Text.run? Text.isWord text
  let text ← ['('].isPrefixOf? (Text.skipBlank text)
  let (arguments, text) := readArguments text
  let rest ← [')', '#'].isPrefixOf? text
  return (⟨name, arguments⟩, rest)

def SpellsUsage (usage : Usage) (written : Text) : Prop :=
  Text.IsRun Text.isWord usage.name ∧
    ∃ blank list, Text.AllBlank blank ∧ SpellsArguments usage.arguments list ∧
      written = ['#'] ++ usage.name ++ blank ++ ['('] ++ list ++ [')', '#']

theorem SpellsUsage.ne_nil {usage : Usage} {written : Text} (spelled : SpellsUsage usage written) :
    written ≠ [] := by
  obtain ⟨_, blank, list, _, _, rfl⟩ := spelled
  simp

theorem spells_of_readUsage {text rest : Text} {usage : Usage}
    (found : readUsage text = some (usage, rest)) :
    ∃ written, SpellsUsage usage written ∧ text = written ++ rest := by
  simp only [readUsage, Option.bind_eq_bind, Option.bind_eq_some_iff, Option.pure_def,
    Option.some.injEq, Prod.mk.injEq, Prod.exists] at found
  obtain ⟨first, opened, name, second, run, third, bracket, fourth, closed, rfl, rfl⟩ := found
  obtain ⟨list, spelled, listed⟩ := spells_of_readArguments third
  obtain ⟨blank, blanks, skipped⟩ := Text.eq_append_skipBlank second
  refine ⟨_, ⟨Text.isRun_of_run? run, blank, list, blanks, spelled, rfl⟩, ?_⟩
  rw [Text.isPrefixOf?_eq_some_iff.1 opened, Text.eq_append_of_run? run, skipped,
    Text.isPrefixOf?_eq_some_iff.1 bracket, listed, Text.isPrefixOf?_eq_some_iff.1 closed]
  simp

def usage : Grammar Usage where
  read := readUsage
  consumes found := by
    obtain ⟨written, spelled, whole⟩ := spells_of_readUsage found
    exact ⟨written, spelled.ne_nil, whole⟩

/-- Reads a word between two braces on either side. -/
def readPlaceholder (text : Text) : Option (Text × Text) := do
  let text ← ['{', '{'].isPrefixOf? text
  let (name, text) ← Text.run? Text.isWord text
  let rest ← ['}', '}'].isPrefixOf? text
  return (name, rest)

theorem eq_append_of_readPlaceholder {text name rest : Text}
    (found : readPlaceholder text = some (name, rest)) :
    text = ['{', '{'] ++ name ++ ['}', '}'] ++ rest := by
  simp only [readPlaceholder, Option.bind_eq_bind, Option.bind_eq_some_iff, Option.pure_def,
    Option.some.injEq, Prod.mk.injEq, Prod.exists] at found
  obtain ⟨first, opened, word, second, run, third, closed, rfl, rfl⟩ := found
  rw [Text.isPrefixOf?_eq_some_iff.1 opened, Text.eq_append_of_run? run,
    Text.isPrefixOf?_eq_some_iff.1 closed]
  simp

def placeholder : Grammar Text where
  read := readPlaceholder
  consumes found := ⟨_, by simp, eq_append_of_readPlaceholder found⟩

/-- Pairs parameters with arguments by position: a missing argument is empty, and further
arguments are dropped. -/
def pair : List Text → List Text → List (Text × Text)
  | [], _ => []
  | parameter :: parameters, [] => (parameter, []) :: pair parameters []
  | parameter :: parameters, argument :: arguments =>
      (parameter, argument) :: pair parameters arguments

/-- What each parameter stands for. Of a repeated parameter the last position counts. -/
def assign (parameters arguments : List Text) : Table Text := .ofList (pair parameters arguments)

/-- The body with the arguments put in, in one pass. Placeholders that name no parameter stay. -/
def Definition.expand (definition : Definition) (arguments : List Text) : Text :=
  let bindings := assign definition.parameters arguments
  (placeholder.substitute (fun written name => .silent ((bindings.get? name).getD written))
    definition.body).text

/-- Definitions by name. The last definition of a name counts. -/
def tableOf (definitions : List Definition) : Table Definition :=
  .ofList (definitions.map fun definition => (definition.name, definition))

def table (text : Text) : Table Definition := tableOf (definition.hits text)

/-- What one usage becomes: the expanded body of a known macro, or the usage with a report. -/
def emit (known : Table Definition) (written : Text) (usage : Usage) : Emission :=
  match known.get? usage.name with
  | some definition => .silent (definition.expand usage.arguments)
  | none => ⟨written, [.unknownMacro usage.name]⟩

def expandUsages (known : Table Definition) (text : Text) : Emission :=
  usage.substitute (emit known) text

def expand (text : Text) : Emission := expandUsages (table text) (definition.remove text)

def occursIn (text : Text) : Bool := definition.occursIn text || usage.occursIn text

end Stencil.Macro
