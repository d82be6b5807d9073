import Stencil.Grammar
import Stencil.Text.Class
import Stencil.Cache
import Stencil.Config

set_option autoImplicit false

namespace Stencil.Include

def opener : Text := ['{', '{', 'i', 'n', 'c', 'l', 'u', 'd', 'e', ':']

def closer : Text := ['}', '}']

def readDirective (text : Text) : Option (Text × Text) := do
  let text ← opener.isPrefixOf? text
  let (path, text) ← Text.run? Text.isPath text
  let rest ← closer.isPrefixOf? text
  return (path, rest)

def Spells (path written : Text) : Prop :=
  Text.IsRun Text.isPath path ∧ written = opener ++ path ++ closer

theorem Spells.ne_nil {path written : Text} (spelled : Spells path written) : written ≠ [] := by
  rw [spelled.2]
  simp [opener]

theorem spells_of_readDirective {text path rest : Text}
    (found : readDirective text = some (path, rest)) :
    ∃ written, Spells path written ∧ text = written ++ rest := by
  simp only [readDirective, Option.bind_eq_bind, Option.bind_eq_some_iff, Option.pure_def,
    Option.some.injEq, Prod.mk.injEq, Prod.exists] at found
  obtain ⟨first, opened, name, second, run, third, closed, rfl, rfl⟩ := found
  refine ⟨_, ⟨Text.isRun_of_run? run, rfl⟩, ?_⟩
  rw [Text.isPrefixOf?_eq_some_iff.1 opened, Text.eq_append_of_run? run,
    Text.isPrefixOf?_eq_some_iff.1 closed]
  simp

def directive : Grammar Text where
  read := readDirective
  consumes found := by
    obtain ⟨written, spelled, whole⟩ := spells_of_readDirective found
    exact ⟨written, spelled.ne_nil, whole⟩

/-- The file of an include path, unless the path leaves the include root. -/
def locate (config : Config) (path : Text) : Option Text :=
  if Path.staysBelow path then some (Path.join config.includeRoot path) else none

/-- A style sheet inside its element. A line end is added if the sheet has none at its end. -/
def wrapStyle (sheet : Text) : Text :=
  "<style>\n".toList ++ sheet ++ (if sheet.getLast? = some '\n' then [] else ['\n']) ++
    "</style>".toList

def bodyOf (config : Config) (file : Text) (bytes : List UInt8) : Text :=
  if config.isStylesheet file then wrapStyle (Utf8.lossyText bytes) else Utf8.lossyText bytes

def load (config : Config) (files : Files) (path : Text) : Except Event Text :=
  match locate config path with
  | none => .error (.includeEscapes path)
  | some file =>
      if files.isFile file then
        match files.read file with
        | .ok bytes => .ok (bodyOf config file bytes)
        | .error error => .error (.includeUnreadable path error)
      else .error (.includeNotFound path file)

/-- What a load writes: the body, or the directive itself with a report. -/
def emit (written : Text) : Except Event Text → Emission
  | .ok body => .silent body
  | .error event => ⟨written, [event]⟩

/-- Replaces one directive. With caching on, a cached body is taken first, and a loaded one is
stored. -/
def replace (config : Config) (files : Files) (cache : Cache) (written path : Text) :
    Emission × Cache :=
  if config.cacheIncludes then
    match cache.ask written with
    | (some body, asked) => (.silent body, asked)
    | (none, asked) =>
        match load config files path with
        | .ok body => (.silent body, asked.store written body)
        | .error event => (⟨written, [event]⟩, asked)
  else (emit written (load config files path), cache)

def inline (config : Config) (files : Files) (cache : Cache) (text : Text) : Emission × Cache :=
  directive.substituteWith (replace config files) cache text

def requests (config : Config) (text : Text) : List Text :=
  (directive.hits text).filterMap (locate config)

end Stencil.Include
