import Stencil.Config
import Stencil.Files
import Stencil.Text.Class
import Stencil.Yaml.Value

set_option autoImplicit false

namespace Stencil

inductive ConfigError where
  | unreadable (path : Text) (error : FileError)
  | malformed (error : Yaml.Error)
deriving DecidableEq, Repr

def ConfigError.message : ConfigError → String
  | unreadable path error => s!"failed to read config '{String.ofList path}': {error.message}"
  | malformed error => s!"invalid config: {error.message}"

namespace Config

inductive Field where
  | enabled
  | includeRoot
  | cacheIncludes
  | stylesheetExtensions
  | builtinProviders
  | sections
deriving DecidableEq, Repr

namespace Field

def all : List Field :=
  [enabled, includeRoot, cacheIncludes, stylesheetExtensions, builtinProviders, sections]

def name : Field → String
  | enabled => "enabled"
  | includeRoot => "include_root"
  | cacheIncludes => "cache_includes"
  | stylesheetExtensions => "stylesheet_extensions"
  | builtinProviders => "builtin_providers"
  | sections => "variables"

def ofName? (text : Text) : Option Field := all.find? fun field => field.name.toList = text

end Field

open Yaml (Reading Node Anchors)

/-- Whether a node is a plain scalar without text, which stands for an empty collection. -/
def isVoid : Node → Bool
  | .scalar _ text .plain => text.isEmpty
  | _ => false

/-- A truth value: a plain scalar, or a literal one with the tag for it. -/
def readBool (anchors : Anchors) (node : Node) : Reading Bool := do
  match ← Reading.follow anchors node with
  | .scalar tag text style =>
      if style = .plain || (style = .literal && tag = some (Yaml.coreTag "bool")) then
        match Yaml.Core.bool? text with
        | some b => return b
        | none => throw .wrongType
      else throw .wrongType
  | _ => throw .wrongType

def readTexts (anchors : Anchors) (node : Node) : Reading (List Text) := do
  let node ← Reading.follow anchors node
  match node with
  | .sequence _ items => items.mapM (Yaml.scalarText anchors)
  | _ => if isVoid node then return [] else throw .wrongType

def readTable (anchors : Anchors) (node : Node) : Reading (Table Value) := do
  let node ← Reading.follow anchors node
  match node with
  | .mapping _ pairs =>
      let fields ← pairs.mapM fun (key, value) => do
        let key ← Yaml.scalarText anchors key
        let value ← Yaml.nodeValue anchors (Yaml.maxDepth - 2) value
        return (key, value)
      return Table.ofList fields
  | _ => if isVoid node then return ∅ else throw .wrongType

def readField (anchors : Anchors) (config : Config) (node : Node) : Field → Reading Config
  | .enabled => return { config with enabled := ← readBool anchors node }
  | .includeRoot => return { config with includeRoot := ← Yaml.scalarText anchors node }
  | .cacheIncludes => return { config with cacheIncludes := ← readBool anchors node }
  | .stylesheetExtensions =>
      return { config with stylesheetExtensions := ← readTexts anchors node }
  | .builtinProviders => return { config with builtinProviders := ← readBool anchors node }
  | .sections => return { config with sections := ← readTable anchors node }

/-- Reads fields one after another, none of them twice. Missing ones keep their values, and unknown
ones are passed over. -/
def readFields (anchors : Anchors) (seen : List Field) (config : Config) :
    List (Node × Node) → Reading Config
  | [] => return config
  | (key, node) :: pairs => do
      match Field.ofName? (← Yaml.scalarText anchors key) with
      | none => readFields anchors seen config pairs
      | some field =>
          if seen.contains field then throw .repeatedField
          let config ← readField anchors config node field
          readFields anchors (field :: seen) config pairs

def readRoot (anchors : Anchors) (node : Node) : Reading Config :=
  match node with
  | .mapping _ pairs => readFields anchors [] {} pairs
  | _ => if isVoid node then return {} else throw .wrongType

/-- The settings that a text holds. Blank text holds the defaults. -/
def ofYaml (text : Text) : Except Yaml.Error Config :=
  if (Text.skipBlank text).isEmpty then .ok {}
  else
    match Yaml.Document.read text with
    | .error error => .error error
    | .ok none => .ok {}
    | .ok (some document) => document.reading (readRoot document.anchors document.root)

/-- Settings whose relative include root is read against the directory of a file. -/
def relativeTo (config : Config) (path : Text) : Config :=
  if Path.isAbsolute config.includeRoot then config
  else
    match Path.parent? path with
    | some directory => { config with includeRoot := Path.join directory config.includeRoot }
    | none => config

def ofFile (files : Files) (path : Text) : Except ConfigError Config :=
  match files.readText path with
  | .error error => .error (.unreadable path error)
  | .ok text =>
      match ofYaml text with
      | .error error => .error (.malformed error)
      | .ok config => .ok (config.relativeTo path)

end Config

end Stencil
