import Stencil.Provider
import Stencil.Filter
import Stencil.Files

set_option autoImplicit false

namespace Stencil

/-- The stages of a render, in the order in which they run. -/
inductive Stage where
  | metadata
  | macros
  | includes
  | loops
  | conditionals
  | references
deriving DecidableEq, Repr

namespace Stage

def all : List Stage := [metadata, macros, includes, loops, conditionals, references]

def name : Stage → String
  | metadata => "meta"
  | macros => "macro"
  | includes => "include"
  | loops => "foreach"
  | conditionals => "if"
  | references => "variable"

end Stage

inductive Level where
  | warn
  | debug
  | trace
deriving DecidableEq, Repr

namespace Level

def name : Level → String
  | warn => "WARN"
  | debug => "DEBUG"
  | trace => "TRACE"

/-- Whether events of a level are shown where `least` is the least severe one shown. -/
def shownAt (least level : Level) : Bool :=
  match least, level with
  | trace, _ => true
  | debug, trace => false
  | debug, _ => true
  | warn, level => level = warn

end Level

inductive Event where
  | syntaxIgnored (path : Text)
  | templateRead (path : Text)
  | stageStarted (stage : Stage)
  | unknownNamespace (name : Text)
  | unknownMacro (name : Text)
  | includeEscapes (path : Text)
  | includeNotFound (path file : Text)
  | includeUnreadable (path : Text) (error : FileError)
  | loopFailed (name field : Text) (error : ProviderError)
  | conditionFailed (name field : Text) (error : ProviderError)
  | referenceMissing (name field : Text)
  | referenceFailed (name field : Text) (error : ProviderError)
  | filterFailed (name field : Text) (error : FilterError)
deriving DecidableEq, Repr

namespace Event

def level : Event → Level
  | syntaxIgnored _ => .trace
  | templateRead _ => .debug
  | stageStarted _ => .trace
  | unknownNamespace _ => .debug
  | referenceMissing _ _ => .debug
  | _ => .warn

def message : Event → String
  | syntaxIgnored _ => "request ignores template syntax"
  | templateRead _ => "rendering template file"
  | stageStarted _ => "running stage"
  | unknownNamespace _ => "template requesting unknown variable factory"
  | unknownMacro _ => "crush template requesting invalid macro"
  | includeEscapes _ => "include path escapes the include root"
  | includeNotFound _ _ => "couldn't find file for include"
  | includeUnreadable _ _ => "failed to read include"
  | loopFailed _ _ _ => "failed to finish the foreach loop"
  | conditionFailed _ _ _ => "failed to evaluate if condition"
  | referenceMissing _ _ => "variable not provided"
  | referenceFailed _ _ _ => "failed to resolve variable"
  | filterFailed _ _ _ => "failed to apply filter"

def fields : Event → List (String × Text)
  | syntaxIgnored path => [("path", path)]
  | templateRead path => [("path", path)]
  | stageStarted stage => [("stage", stage.name.toList)]
  | unknownNamespace name => [("namespace", name)]
  | unknownMacro name => [("macro_name", name)]
  | includeEscapes path => [("path", path)]
  | includeNotFound path file => [("path", path), ("file", file)]
  | includeUnreadable path error => [("path", path), ("error", error.message.toList)]
  | loopFailed name field error => failure name field error.message
  | conditionFailed name field error => failure name field error.message
  | referenceMissing name field => [("namespace", name), ("field", field)]
  | referenceFailed name field error => failure name field error.message
  | filterFailed name field error => failure name field error.message
where
  failure (name field : Text) (error : String) : List (String × Text) :=
    [("namespace", name), ("field", field), ("error", error.toList)]

def line (event : Event) : String :=
  let fields := event.fields.map fun field => s!" {field.1}={String.ofList field.2}"
  s!"{event.level.name} {event.message}{String.join fields}"

def isWarning (event : Event) : Bool := event.level = .warn

end Event

/-- A piece of output and what was reported while it was made. -/
structure Emission where
  text : Text
  log : List Event
deriving DecidableEq, Repr

namespace Emission

@[ext] theorem ext {first second : Emission} (text : first.text = second.text)
    (log : first.log = second.log) : first = second := by
  cases first
  cases second
  cases text
  cases log
  rfl

def silent (text : Text) : Emission := ⟨text, []⟩

def empty : Emission := silent []

def append (first second : Emission) : Emission :=
  ⟨first.text ++ second.text, first.log ++ second.log⟩

instance : Append Emission := ⟨append⟩

def join : List Emission → Emission
  | [] => empty
  | emission :: emissions => emission ++ join emissions

@[simp] theorem silent_text (text : Text) : (silent text).text = text := rfl

@[simp] theorem silent_log (text : Text) : (silent text).log = [] := rfl

@[simp] theorem append_text (first second : Emission) :
    (first ++ second).text = first.text ++ second.text := rfl

@[simp] theorem append_log (first second : Emission) :
    (first ++ second).log = first.log ++ second.log := rfl

@[simp] theorem join_cons (emission : Emission) (emissions : List Emission) :
    join (emission :: emissions) = emission ++ join emissions := rfl

theorem append_assoc (first second third : Emission) :
    first ++ second ++ third = first ++ (second ++ third) := by
  ext1 <;> simp

theorem append_empty (emission : Emission) : emission ++ empty = emission := by
  ext1 <;> simp [empty]

end Emission

end Stencil
