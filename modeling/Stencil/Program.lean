import Stencil.Invocation
import Stencil.Config.Yaml
import Stencil.Data
import Stencil.Engine

set_option autoImplicit false

namespace Stencil

inductive RunError where
  | config (path : Text) (error : ConfigError)
  | data (error : DataError)
  | template (error : TemplateError)
deriving DecidableEq, Repr

namespace RunError

def message : RunError → String
  | config path _ => s!"failed to load config '{String.ofList path}'"
  | data error => error.message
  | template error => error.message

/-- What lies behind the error, the nearest cause first. -/
def causes : RunError → List String
  | config _ (.unreadable path error) =>
      [(ConfigError.unreadable path error).message, error.message]
  | config _ (.malformed error) => [(ConfigError.malformed error).message]
  | data error => error.causes
  | template error => [error.error.message]

end RunError

namespace Invocation

/-- The settings before the options that override them: those of the configuration file, or the
defaults with the template's directory as include root. -/
def baseConfig (invocation : Invocation) (files : Files) : Except RunError Config :=
  match invocation.config with
  | none => .ok { includeRoot := Path.directory invocation.template }
  | some path =>
      match Config.ofFile files path with
      | .ok config => .ok config
      | .error error => .error (.config path error)

def override (invocation : Invocation) (config : Config) : Config :=
  { config with
    includeRoot := invocation.includeRoot.getD config.includeRoot
    cacheIncludes := config.cacheIncludes && !invocation.noCache }

def resolveConfig (invocation : Invocation) (files : Files) : Except RunError Config :=
  (invocation.baseConfig files).map invocation.override

def loadData (files : Files) : Registry → List (Text × Text) → Except RunError Registry
  | registry, [] => .ok registry
  | registry, (name, path) :: data =>
      match Data.load files path with
      | .error error => .error (.data error)
      | .ok values => loadData files (registry.addFixed name values) data

def context (invocation : Invocation) : Context :=
  invocation.params.foldl (fun context param => context.withQuery param.1 param.2)
    (.new invocation.path)

def engine (invocation : Invocation) (files : Files) : Except RunError Engine :=
  match invocation.resolveConfig files with
  | .error error => .error error
  | .ok config =>
      match loadData files .empty invocation.data with
      | .error error => .error error
      | .ok registry => .ok (.build config registry .builtin)

/-- Settings first, then data files in their order, then the template. The first of these that fails
is what the run fails with; a render itself does not fail. -/
def run (invocation : Invocation) (files : Files) : Except RunError Progress :=
  match invocation.engine files with
  | .error error => .error error
  | .ok engine =>
      match engine.renderFile files .empty invocation.context invocation.template with
      | .error error => .error (.template ⟨invocation.template, error⟩)
      | .ok progress => .ok progress

def sources (invocation : Invocation) : List Text :=
  invocation.config.toList ++ invocation.data.map (·.2) ++ [invocation.template]

def requests (invocation : Invocation) (files : Files) : List Text :=
  match invocation.engine files, files.readText invocation.template with
  | .ok engine, .ok document => engine.requests invocation.context document
  | _, _ => []

end Invocation

def Program.version : String := "crush 0.9.0"

/-- A line for each metadata entry. A coloured key is cyan and bold. -/
def metadataReport (metadata : Table Value) (coloured : Bool) : Text :=
  metadata.entries.flatMap fun (key, value) =>
    (if coloured then "\x1b[36m\x1b[1m".toList ++ key ++ "\x1b[0m".toList else key) ++
      [':', ' '] ++ value.text ++ ['\n']

structure Outcome where
  code : Nat
  stdout : Text := []
  stderr : Text := []
  log : List Event := []
deriving DecidableEq, Repr

namespace Outcome

def usage : String :=
  "Render a Crush template to stdout\n\nUsage: crush [OPTIONS] <TEMPLATE>\n\nArguments:\n" ++
  "  <TEMPLATE>  Template file to render\n\nOptions:\n" ++
  "      --data <NS=PATH>      Expose a JSON or YAML object file as a namespace\n" ++
  "      --param <KEY=VALUE>   Add a query parameter to the request\n" ++
  "      --path <PATH>         Request path exposed as request.path [default: /]\n" ++
  "      --config <FILE>       YAML configuration file\n" ++
  "      --include-root <DIR>  Directory includes are resolved against " ++
  "[default: the template's directory]\n" ++
  "      --no-cache            Disable the include cache\n" ++
  "      --meta                Print the document metadata to stderr\n" ++
  "  -h, --help                Print help\n" ++
  "  -V, --version             Print version\n"

def complaint : ArgumentError → String
  | .badValue message => s!"invalid value: {message}"
  | .noValue => "a value is required but none was supplied"
  | .noTemplate => "the following required arguments were not provided: <TEMPLATE>"
  | .unknown => "unexpected argument found"
  | .repeated => "the argument cannot be used multiple times"
  | .extraValue => "unexpected value for an argument that takes none"
  | .helpWanted => "help"
  | .versionWanted => "version"

def ofArgumentError : ArgumentError → Outcome
  | .helpWanted => { code := 0, stdout := usage.toList }
  | .versionWanted => { code := 0, stdout := (Program.version ++ "\n").toList }
  | error =>
      { code := 2
        stderr := s!"error: {complaint error}\n\nFor more information, try '--help'.\n".toList }

/-- The causes of an error, each on its line, numbered if there are several. -/
def causeLines : List String → String
  | [] => ""
  | [cause] => s!"\nCaused by:\n    {cause}\n"
  | causes =>
      "\nCaused by:\n" ++
        String.join (causes.zipIdx.map fun (cause, number) => s!"    {number}: {cause}\n")

/-- The outcome of a run that failed: the error and then its causes. -/
def ofRunError (error : RunError) : Outcome :=
  { code := 1, stderr := s!"Error: {error.message}\n{causeLines error.causes}".toList }

/-- The outcome of a render: its text, and the metadata if they are wanted. -/
def ofProgress (invocation : Invocation) (progress : Progress) (coloured : Bool) : Outcome :=
  { code := 0
    stdout := progress.text
    stderr :=
      if invocation.showMetadata then
        metadataReport (progress.context.metadata.map .string) coloured
      else []
    log := progress.log }

def of (arguments : List Text) (files : Files) (coloured : Bool) : Outcome :=
  match Invocation.ofArguments arguments with
  | .error error => ofArgumentError error
  | .ok invocation =>
      match invocation.run files with
      | .error error => ofRunError error
      | .ok progress => ofProgress invocation progress coloured

end Outcome

end Stencil
