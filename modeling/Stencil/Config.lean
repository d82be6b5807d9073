import Stencil.Value
import Stencil.Files.Path

set_option autoImplicit false

namespace Stencil

structure Config where
  /-- A disabled engine leaves documents as they are. -/
  enabled : Bool := true
  /-- The directory that include paths are read against. -/
  includeRoot : Text := ['.']
  cacheIncludes : Bool := true
  /-- Extensions of files that are wrapped as style sheets when included. -/
  stylesheetExtensions : List Text := [['c', 's', 's']]
  builtinProviders : Bool := true
  /-- The sections behind the configuration namespace. -/
  sections : Table Value := ∅

namespace Config

instance : Inhabited Config := ⟨{}⟩

/-- Whether a file's extension is one of the style sheet extensions, dots at their front and the
case of ASCII letters apart. -/
def isStylesheet (config : Config) (path : Text) : Bool :=
  match Path.extension? path with
  | none => false
  | some extension =>
      config.stylesheetExtensions.any fun known =>
        Text.sameLetters (known.dropWhile (· = '.')) extension

end Config

end Stencil
