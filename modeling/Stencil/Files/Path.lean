import Stencil.Text

set_option autoImplicit false

namespace Stencil.Path

def isAbsolute (path : Text) : Bool := path.head? = some '/'

/-- The segments of a path, the empty ones included. -/
def segments (path : Text) : List Text := path.splitOn '/'

def ofSegments (segments : List Text) : Text := ['/'].intercalate segments

/-- A path read against a directory: an absolute one stands for itself. -/
def join (directory path : Text) : Text :=
  if isAbsolute path || directory.isEmpty then path
  else if directory.getLast? = some '/' then directory ++ path
  else directory ++ '/' :: path

/-- An empty segment or a single dot, which say nothing behind the front of a path. -/
def isIdle (segment : Text) : Bool := segment = [] || segment = ['.']

inductive Component where
  | root
  | here
  | up
  | name (segment : Text)
deriving DecidableEq, Repr

/-- The step that a segment behind the front of a path stands for. -/
def component? (segment : Text) : Option Component :=
  if isIdle segment then none else if segment = ['.', '.'] then some .up else some (.name segment)

def components (path : Text) : List Component :=
  let steps := (segments path).filterMap component?
  if isAbsolute path then .root :: steps
  else if (segments path).head? = some ['.'] then .here :: steps
  else steps

def Component.staysBelow : Component → Bool
  | here => true
  | name _ => true
  | root => false
  | up => false

/-- Whether a path is relative and never steps up. -/
def staysBelow (path : Text) : Bool := (components path).all Component.staysBelow

/-- The root or the dot at the front of a path, and the rest. -/
def front : Text → Text × Text
  | '/' :: rest => (['/'], rest)
  | ['.'] => (['.'], [])
  | '.' :: '/' :: rest => (['.'], '/' :: rest)
  | path => ([], path)

/-- The segments behind the front, last one first, without idle ones at the end. -/
def tail (path : Text) : List Text := (segments (front path).2).reverse.dropWhile isIdle

def fileName? (path : Text) : Option Text :=
  match tail path with
  | [] => none
  | last :: _ => if last = ['.', '.'] then none else some last

def parent? (path : Text) : Option Text :=
  match tail path with
  | [] => if (front path).1 = ['.'] then some [] else none
  | _ :: more =>
      some ((front path).1 ++ ofSegments (more.dropWhile isIdle).reverse)

/-- What follows the last dot of the file name, unless that dot begins the name. -/
def extension? (path : Text) : Option Text := do
  let name ← fileName? path
  match (name.splitOn '.').reverse with
  | extension :: stem :: more => if more = [] ∧ stem = [] then none else some extension
  | _ => none

/-- The directory a file is in, a dot for a bare name. -/
def directory (path : Text) : Text :=
  match parent? path with
  | some [] => ['.']
  | some directory => directory
  | none => ['.']

end Stencil.Path
