import Stencil.Files
import Stencil.Files.Path
import Stencil.Json.Reader
import Stencil.Yaml.Value

set_option autoImplicit false

namespace Stencil

inductive DataError where
  | unreadable (path : Text) (error : FileError)
  | badJson (path : Text)
  | badYaml (path : Text) (error : Yaml.Error)
  | unsupported (path : Text)
  | notObject (path : Text)
deriving DecidableEq, Repr

namespace DataError

def message : DataError → String
  | unreadable path _ => s!"failed to read data file '{String.ofList path}'"
  | badJson path => s!"invalid JSON in '{String.ofList path}'"
  | badYaml path _ => s!"invalid YAML in '{String.ofList path}'"
  | unsupported path =>
      s!"unsupported data file '{String.ofList path}': expected .json, .yaml or .yml"
  | notObject path => s!"data file '{String.ofList path}' must contain an object"

def causes : DataError → List String
  | unreadable _ error => [error.message]
  | _ => []

end DataError

namespace Data

inductive Format where
  | json
  | yaml
deriving DecidableEq, Repr

def format? (extension : Text) : Option Format :=
  if Text.sameLetters extension "json".toList then some .json
  else if Text.sameLetters extension "yaml".toList then some .yaml
  else if Text.sameLetters extension "yml".toList then some .yaml
  else none

def read (path text : Text) : Format → Except DataError Value
  | .json =>
      match Json.read? text with
      | some value => .ok value
      | none => .error (.badJson path)
  | .yaml =>
      match Yaml.readValue text with
      | .ok value => .ok value
      | .error error => .error (.badYaml path error)

/-- The fields of the object that a file holds, in JSON or YAML by its extension in any letters. -/
def load (files : Files) (path : Text) : Except DataError (Table Value) :=
  match files.readText path with
  | .error error => .error (.unreadable path error)
  | .ok text =>
      match (Path.extension? path).bind format? with
      | none => .error (.unsupported path)
      | some format =>
          match read path text format with
          | .error error => .error error
          | .ok value =>
              match value.asObject? with
              | some fields => .ok fields
              | none => .error (.notObject path)

end Data

end Stencil
