import Stencil.Cache
import Stencil.Config
import Stencil.Config.Yaml
import Stencil.Context
import Stencil.Data
import Stencil.Directive.Conditional
import Stencil.Directive.Include
import Stencil.Directive.Loop
import Stencil.Directive.Macro
import Stencil.Directive.Metadata
import Stencil.Directive.Reference
import Stencil.Directive.Target
import Stencil.Engine
import Stencil.Files
import Stencil.Files.Path
import Stencil.Files.Tree
import Stencil.Filter
import Stencil.Filter.Builtin
import Stencil.Grammar
import Stencil.Invocation
import Stencil.Json.Numeral
import Stencil.Json.Reader
import Stencil.Log
import Stencil.Main
import Stencil.Number
import Stencil.Number.Double
import Stencil.Number.Shortest
import Stencil.Program
import Stencil.Provider
import Stencil.Provider.Builtin
import Stencil.Provider.Registry
import Stencil.Session
import Stencil.Table
import Stencil.Text
import Stencil.Text.Case
import Stencil.Text.CaseTable
import Stencil.Text.Class
import Stencil.Text.Utf8
import Stencil.Value
import Stencil.Yaml.Cursor
import Stencil.Yaml.Node
import Stencil.Yaml.Scalar.Block
import Stencil.Yaml.Scalar.Core
import Stencil.Yaml.Scalar.Fold
import Stencil.Yaml.Scalar.Plain
import Stencil.Yaml.Scalar.Quoted
import Stencil.Yaml.Tag
import Stencil.Yaml.Token
import Stencil.Yaml.Value
import Stencil.Proofs.Scan.Cut
import Stencil.Proofs.Scan.Readers
import Stencil.Proofs.Files.Below
import Stencil.Proofs.Include.Confinement
import Stencil.Proofs.Include.Pinning
import Stencil.Proofs.Include.Transparency
import Stencil.Proofs.Render.Checks
import Stencil.Proofs.Render.Unopened
import Stencil.Proofs.Scan.Locality
import Stencil.Proofs.Scan.Openers
import Stencil.Proofs.Scan.Composed
import Stencil.Proofs.Scan.Apart
import Stencil.Proofs.Loop.Unrolled
import Stencil.Proofs.Reference.Locality
import Stencil.Proofs.Metadata.Entries
import Stencil.Proofs.Metadata.Record
import Stencil.Proofs.Metadata.RoundTrip
import Stencil.Proofs.Loop.Elements
import Stencil.Proofs.Provider.Views
import Stencil.Proofs.Render.Template
import Stencil.Proofs.Render.Idempotence
import Stencil.Proofs.Warnings.Render
import Stencil.Proofs.Provider.Registrations
import Stencil.Proofs.Render.Blindness
import Stencil.Proofs.Metadata.Bodies
import Stencil.Proofs.Macro.Placement
import Stencil.Proofs.Macro.Split
import Stencil.Proofs.Loop.Repetition
import Stencil.Proofs.Loop.Single
import Stencil.Proofs.Conditional.Block
import Stencil.Proofs.Text.Utf8
import Stencil.Proofs.Files.Name
import Stencil.Proofs.Include.Inline
import Stencil.Proofs.Json.Scalar
import Stencil.Proofs.Filter.Script
import Stencil.Proofs.Invocation.Sources
import Stencil.Proofs.Invocation.Run
import Stencil.Proofs.Session.Failures
import Stencil.Proofs.Config.Fields
import Stencil.Proofs.Files.Parent
import Stencil.Proofs.Invocation.Root
