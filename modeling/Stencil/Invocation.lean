import Stencil.Text

set_option autoImplicit false

namespace Stencil

structure Invocation where
  template : Text
  data : List (Text × Text) := []
  params : List (Text × Text) := []
  path : Text := ['/']
  config : Option Text := none
  includeRoot : Option Text := none
  noCache : Bool := false
  showMetadata : Bool := false
deriving DecidableEq, Repr

/-- Why a command line is not run as it stands. -/
inductive ArgumentError where
  /-- The text of a value is not of the form its option wants. -/
  | badValue (message : String)
  /-- A value is missing, or is empty where it must not be. -/
  | noValue
  | noTemplate
  | unknown
  /-- An option or a switch that may come once comes twice. -/
  | repeated
  | extraValue
  | helpWanted
  | versionWanted
deriving DecidableEq, Repr

namespace Invocation

inductive Key where
  | data
  | param
  | path
  | config
  | includeRoot
deriving DecidableEq, Repr

inductive Switch where
  | noCache
  | showMetadata
  | help
  | version
deriving DecidableEq, Repr

inductive Name where
  | key (key : Key)
  | switch (switch : Switch)
deriving DecidableEq, Repr

def names : List (String × Name) :=
  [("data", .key .data), ("param", .key .param), ("path", .key .path), ("config", .key .config),
    ("include-root", .key .includeRoot), ("no-cache", .switch .noCache),
    ("meta", .switch .showMetadata), ("help", .switch .help), ("version", .switch .version)]

def name? (text : Text) : Option Name :=
  (names.find? fun entry => entry.1.toList = text).map (·.2)

def letter? (c : Char) : Option Switch :=
  if c = 'h' then some .help else if c = 'V' then some .version else none

/-- Splits at the first equals sign. -/
def splitPair (text : Text) : Except ArgumentError (Text × Text) :=
  match Text.cut? ['='] text with
  | none => .error (.badValue s!"expected KEY=VALUE, got '{String.ofList text}'")
  | some (key, value) =>
      if key.isEmpty then .error (.badValue s!"missing key in '{String.ofList text}'")
      else .ok (key, value)

def splitData (text : Text) : Except ArgumentError (Text × Text) :=
  match splitPair text with
  | .error error => .error error
  | .ok (name, path) =>
      if path.isEmpty then .error (.badValue s!"missing path in '{String.ofList text}'")
      else .ok (name, path)

def nonempty (text : Text) : Except ArgumentError Text :=
  if text.isEmpty then .error .noValue else .ok text

/-- A value that has been read and is looked at when the next argument is. An option without its
value is found out then, unless that argument is itself unknown. -/
inductive Pending where
  | nothing
  | template (text : Text)
  | wanting (key : Key)
  | holding (key : Key) (text : Text)
deriving DecidableEq, Repr

structure Partial where
  template : Option Text := none
  /-- Whether the template has been met, looked at or not. -/
  met : Bool := false
  data : List (Text × Text) := []
  params : List (Text × Text) := []
  path : Option Text := none
  config : Option Text := none
  includeRoot : Option Text := none
  noCache : Bool := false
  showMetadata : Bool := false
  pending : Pending := .nothing
  /-- Whether two hyphens have been met. -/
  behind : Bool := false
deriving DecidableEq, Repr

namespace Partial

def give (line : Partial) (key : Key) (text : Text) : Except ArgumentError Partial :=
  match key with
  | .data => (splitData text).map fun pair => { line with data := line.data ++ [pair] }
  | .param => (splitPair text).map fun pair => { line with params := line.params ++ [pair] }
  | .path =>
      if line.path.isSome then .error .repeated else .ok { line with path := some text }
  | .config =>
      if line.config.isSome then .error .repeated
      else (nonempty text).map fun text => { line with config := some text }
  | .includeRoot =>
      if line.includeRoot.isSome then .error .repeated
      else (nonempty text).map fun text => { line with includeRoot := some text }

def settle (line : Partial) : Except ArgumentError Partial :=
  let settled := { line with pending := .nothing }
  match line.pending with
  | .nothing => .ok settled
  | .template text => (nonempty text).map fun text => { settled with template := some text }
  | .wanting _ => .error .noValue
  | .holding key text => settled.give key text

def flip (line : Partial) : Switch → Except ArgumentError Partial
  | .noCache =>
      if line.noCache then .error .repeated else .ok { line with noCache := true }
  | .showMetadata =>
      if line.showMetadata then .error .repeated else .ok { line with showMetadata := true }
  | .help => .error .helpWanted
  | .version => .error .versionWanted

/-- An argument behind two hyphens: a name, perhaps with an equals sign and a value. -/
def long (line : Partial) (text : Text) : Except ArgumentError Partial :=
  let (name, value) := match Text.cut? ['='] text with
    | some (name, value) => (name, some value)
    | none => (text, none)
  match name? name with
  | none => .error .unknown
  | some (.key key) => do
      let line ← line.settle
      match value with
      | some value => line.give key value
      | none => return { line with pending := .wanting key }
  | some (.switch switch) => do
      if value.isSome then throw .extraValue
      let line ← line.settle
      line.flip switch

/-- An argument behind one hyphen: letters, of which the first decides. -/
def short (line : Partial) (first : Char) : Except ArgumentError Partial :=
  match letter? first with
  | none => .error .unknown
  | some switch => do
      let line ← line.settle
      line.flip switch

/-- An argument that stands by itself: the template, which comes once. -/
def positional (line : Partial) (text : Text) : Except ArgumentError Partial := do
  if line.met then throw .unknown
  let line ← line.settle
  return { line with met := true, pending := .template text }

def next (line : Partial) (argument : Text) : Except ArgumentError Partial :=
  if line.behind then line.positional argument
  else
    match argument with
    | ['-', '-'] => .ok { line with behind := true }
    | '-' :: '-' :: text => line.long text
    | '-' :: first :: _ => line.short first
    | text =>
        match line.pending with
        | .wanting key => .ok { line with pending := .holding key text }
        | _ => line.positional text

def finish (line : Partial) : Except ArgumentError Invocation :=
  match line.settle with
  | .error error => .error error
  | .ok line =>
      match line.template with
      | none => .error .noTemplate
      | some template =>
          .ok
            { template := template
              data := line.data
              params := line.params
              path := line.path.getD ['/']
              config := line.config
              includeRoot := line.includeRoot
              noCache := line.noCache
              showMetadata := line.showMetadata }

end Partial

def ofArguments (arguments : List Text) : Except ArgumentError Invocation :=
  match arguments.foldlM Partial.next {} with
  | .error error => .error error
  | .ok line => line.finish

end Invocation

end Stencil
