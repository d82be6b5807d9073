import Stencil.Text.Utf8

set_option autoImplicit false

namespace Stencil.Yaml

inductive Error where
  | badCharacter
  | badToken
  | badStructure
  | badDirective
  | unknownTag
  | unknownAnchor
  | moreDocuments
  | tooDeep
  | tooManyAliases
  | wrongType
  | repeatedField
deriving DecidableEq, Repr

def Error.message : Error → String
  | badCharacter => "control characters are not allowed"
  | badToken => "found no token here"
  | badStructure => "did not find expected node content"
  | badDirective => "found a malformed directive"
  | unknownTag => "found undefined tag handle"
  | unknownAnchor => "unknown anchor"
  | moreDocuments => "more than one document"
  | tooDeep => "recursion limit exceeded"
  | tooManyAliases => "repetition limit exceeded"
  | wrongType => "invalid type"
  | repeatedField => "duplicate field"

def isBreak (c : Char) : Bool :=
  c = '\n' || c = '\r' || c = '\u0085' || c = '\u2028' || c = '\u2029'

def isSpacing (c : Char) : Bool := c = ' ' || c = '\t'

def endsWord : Option Char → Bool
  | none => true
  | some c => isSpacing c || isBreak c

/-- A character that YAML text may hold. -/
def isAllowed (c : Char) : Bool :=
  let n := c.toNat
  n = 0x09 || n = 0x0A || n = 0x0D || (0x20 ≤ n && n ≤ 0x7E) || n = 0x85 ||
    (0xA0 ≤ n && n ≤ 0xFFFD) || 0x10000 ≤ n

/-- A character of an anchor or of a directive's name. -/
def isNameChar (c : Char) : Bool := c.isAlphanum || c = '_' || c = '-'

structure Cursor where
  rest : Text
  /-- How many bytes stand before it. -/
  index : Nat := 0
  line : Nat := 0
  column : Nat := 0
deriving Repr

namespace Cursor

def peek (c : Cursor) (ahead : Nat := 0) : Option Char := c.rest[ahead]?

def atEnd (c : Cursor) : Bool := c.rest.isEmpty

/-- Steps over characters of the same line. -/
def advance (c : Cursor) (count : Nat := 1) : Cursor :=
  { c with
    rest := c.rest.drop count
    index := c.index + Utf8.size (c.rest.take count)
    column := c.column + count }

/-- Steps over a line end, if there is one: a line feed, a carriage return, the two together, or one
of the three line separators of Unicode. -/
def advanceLine (c : Cursor) : Cursor :=
  match c.rest with
  | '\r' :: '\n' :: rest => ⟨rest, c.index + 2, c.line + 1, 0⟩
  | first :: rest =>
      if isBreak first then ⟨rest, c.index + Utf8.size [first], c.line + 1, 0⟩ else c
  | [] => c

/-- What a line end is read as: a line feed, unless it is a separator that is kept. -/
def lineEnd (c : Cursor) : Text :=
  match c.rest with
  | [] => []
  | first :: _ =>
      if first = '\u2028' || first = '\u2029' then [first]
      else if isBreak first then ['\n'] else []

def run (c : Cursor) (inside : Char → Bool) : Text := c.rest.takeWhile inside

def skip (c : Cursor) (inside : Char → Bool) : Cursor := c.advance (c.run inside).length

def skipComment (c : Cursor) : Cursor :=
  let c := c.skip isSpacing
  if c.peek = some '#' then c.skip fun c => !isBreak c else c

/-- Whether a mark that starts or ends a document stands here. -/
def atMark (c : Cursor) (sign : Char) : Bool :=
  c.column = 0 && c.peek = some sign && c.peek 1 = some sign && c.peek 2 = some sign &&
    endsWord (c.peek 3)

def atDocumentMark (c : Cursor) : Bool := c.atMark '-' || c.atMark '.'

end Cursor

end Stencil.Yaml
