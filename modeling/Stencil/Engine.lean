import Stencil.Directive.Metadata
import Stencil.Directive.Macro
import Stencil.Directive.Include
import Stencil.Directive.Loop
import Stencil.Directive.Conditional
import Stencil.Directive.Reference
import Stencil.Provider.Builtin
import Stencil.Filter.Builtin

set_option autoImplicit false

namespace Stencil

structure Engine where
  config : Config
  registry : Registry
  filters : Filters

/-- A document under way: its text so far, the request, the include cache, and the reports. -/
structure Progress where
  text : Text
  context : Context
  cache : Cache
  log : List Event
deriving DecidableEq

namespace Progress

def take (progress : Progress) (emission : Emission) : Progress :=
  { progress with text := emission.text, log := progress.log ++ emission.log }

def report (progress : Progress) (event : Event) : Progress :=
  { progress with log := progress.log ++ [event] }

end Progress

namespace Engine

/-- The registry of an engine: the built-in namespaces if they are wanted, with the configured
sections, and over them the given ones. -/
def registryFor (config : Config) (given : Registry) : Registry :=
  if config.builtinProviders then
    (Registry.builtin.add Registry.sectionsName (.sections config.sections)).merge given
  else given

def build (config : Config) (given : Registry) (filters : Filters) : Engine :=
  ⟨config, registryFor config given, filters⟩

def standard : Engine := build {} .empty .builtin

/-- Whether a stage finds a directive of its own in a text. -/
def applies (stage : Stage) (text : Text) : Bool :=
  match stage with
  | .metadata => Metadata.block.occursIn text
  | .macros => Macro.occursIn text
  | .includes => Include.directive.occursIn text
  | .loops => Loop.block.occursIn text
  | .conditionals => Conditional.block.occursIn text
  | .references => Reference.reference.occursIn text

def runStage (engine : Engine) (files : Files) (progress : Progress) (stage : Stage) :
    Progress :=
  match stage with
  | .metadata =>
      { progress with
        text := Metadata.strip progress.text
        context := progress.context.addAllMetadata (Metadata.entries progress.text) }
  | .macros => progress.take (Macro.expand progress.text)
  | .includes =>
      let (emission, cache) := Include.inline engine.config files progress.cache progress.text
      { progress.take emission with cache := cache }
  | .loops => progress.take (Loop.unroll engine.registry progress.context progress.text)
  | .conditionals =>
      progress.take (Conditional.settle engine.registry progress.context progress.text)
  | .references =>
      progress.take
        (Reference.resolve engine.registry engine.filters progress.context progress.text)

/-- Runs one stage if it finds anything to do. -/
def step (engine : Engine) (files : Files) (progress : Progress) (stage : Stage) : Progress :=
  if applies stage progress.text then
    engine.runStage files (progress.report (.stageStarted stage)) stage
  else progress

def render (engine : Engine) (files : Files) (cache : Cache) (context : Context)
    (document : Text) : Progress :=
  let start : Progress := ⟨document, context, cache, []⟩
  if !engine.config.enabled then start
  else if context.ignoresSyntax then start.report (.syntaxIgnored context.path)
  else Stage.all.foldl (engine.step files) start

def renderFile (engine : Engine) (files : Files) (cache : Cache) (context : Context)
    (path : Text) : Except FileError Progress :=
  match files.readText path with
  | .error error => .error error
  | .ok document =>
      let progress := engine.render files cache context document
      .ok { progress with log := .templateRead path :: progress.log }

/-- The files that rendering a document asks for. Only the stages before the includes have a
part in it, and they need no file. -/
def requests (engine : Engine) (context : Context) (document : Text) : List Text :=
  let start : Progress := ⟨document, context, .empty, []⟩
  if !engine.config.enabled || context.ignoresSyntax then []
  else
    Include.requests engine.config
      ([Stage.metadata, Stage.macros].foldl (engine.step .none) start).text

end Engine

structure TemplateError where
  path : Text
  error : FileError
deriving DecidableEq, Repr

def TemplateError.message (failure : TemplateError) : String :=
  s!"failed to read template '{String.ofList failure.path}': {failure.error.message}"

end Stencil
