import Stencil.Yaml.Scalar.Quoted
import Stencil.Yaml.Scalar.Plain
import Stencil.Yaml.Scalar.Block
import Stencil.Yaml.Tag

set_option autoImplicit false

namespace Stencil.Yaml

inductive Style where
  | plain
  | quoted
  | literal
  | folded
deriving DecidableEq, Repr

inductive Token where
  | directive (directive : Directive)
  | documentStart
  | documentEnd
  | sequenceStart
  | mappingStart
  | blockEnd
  | flowSequenceStart
  | flowSequenceEnd
  | flowMappingStart
  | flowMappingEnd
  | entry
  | comma
  | key
  | value
  | alias (name : Text)
  | anchor (name : Text)
  | tag (tag : Tag)
  | scalar (text : Text) (style : Style)
deriving DecidableEq, Repr

/-- A place where a key may have started. -/
structure KeyPlace where
  /-- A key must follow, for nothing else may stand at this indentation. -/
  required : Bool
  /-- How many tokens stood before it. -/
  before : Nat
  index : Nat
  line : Nat
  column : Nat
deriving Repr

structure Scan where
  cursor : Cursor
  /-- The tokens so far, the last one first. -/
  reversed : List Token := []
  /-- The indentations of the open blocks, the innermost first. -/
  indents : List Nat := []
  keyAllowed : Bool := true
  /-- For each open bracket, the innermost first, and outside of all, where a key may have
  started. -/
  places : List (Option KeyPlace) := [none]
deriving Repr

namespace Scan

def inFlow (s : Scan) : Bool := 1 < s.places.length

def indent (s : Scan) : Int := (s.indents.head?.map Int.ofNat).getD (-1)

def count (s : Scan) : Nat := s.reversed.length

def push (s : Scan) (token : Token) : Scan := { s with reversed := token :: s.reversed }

/-- Puts a token behind the first `before` ones. -/
def insertAt (s : Scan) (before : Nat) (token : Token) : Scan :=
  { s with reversed := s.reversed.insertIdx (s.count - before) token }

/-- Opens a block at a column that is indented further, with its token behind the first `before`
ones. -/
def openBlock (s : Scan) (column before : Nat) (token : Token) : Scan :=
  if !s.inFlow && s.indent < column then
    { s.insertAt before token with indents := column :: s.indents }
  else s

def closeBlocks (s : Scan) (column : Int) : Scan :=
  if s.inFlow then s
  else
    let closed := s.indents.takeWhile fun (indent : Nat) => column < indent
    { s with
      indents := s.indents.drop closed.length
      reversed := List.replicate closed.length .blockEnd ++ s.reversed }

def dropPlace (s : Scan) : Except Error Scan :=
  match s.places with
  | some place :: places =>
      if place.required then .error .badToken else .ok { s with places := none :: places }
  | _ => .ok s

def notePlace (s : Scan) : Except Error Scan :=
  if s.keyAllowed then
    match s.dropPlace with
    | .error error => .error error
    | .ok s =>
        let c := s.cursor
        let place : KeyPlace :=
          ⟨!s.inFlow && s.indent = c.column, s.count, c.index, c.line, c.column⟩
        .ok { s with places := some place :: s.places.drop 1 }
  else .ok s

/-- The most bytes that a key may take. -/
def maxKeyLength : Nat := 1024

/-- Gives up the possible keys that are on an earlier line or too long. -/
def dropStale (s : Scan) : Except Error Scan :=
  let stale (place : KeyPlace) : Bool :=
    place.line < s.cursor.line || place.index + maxKeyLength < s.cursor.index
  if s.places.any fun place => place.any fun place => stale place && place.required then
    .error .badToken
  else
    .ok { s with places := s.places.map fun place => place.filter fun place => !stale place }

/-- Goes on behind a number of characters with a token for them. -/
def take (s : Scan) (length : Nat) (token : Token) : Scan :=
  { s.push token with cursor := s.cursor.advance length }

def allow (s : Scan) (keyAllowed : Bool) : Scan := { s with keyAllowed := keyAllowed }

/-- Steps over blanks, comments and line ends; a byte order mark may start a line. Outside brackets
a new line may start a key. The number bounds the lines. -/
def skipBlank : Nat → Scan → Scan
  | 0, s => s
  | fuel + 1, s =>
      let c := if s.cursor.column = 0 && s.cursor.peek = some '\uFEFF' then s.cursor.advance
        else s.cursor
      let c := c.skip fun c => c = ' ' || (c = '\t' && (s.inFlow || !s.keyAllowed))
      let c := if c.peek = some '#' then c.skip fun c => !isBreak c else c
      if c.peek.any isBreak then
        skipBlank fuel { s with cursor := c.advanceLine, keyAllowed := !s.inFlow || s.keyAllowed }
      else { s with cursor := c }

def documentMark (s : Scan) (token : Token) : Except Error Scan := do
  let s ← (s.closeBlocks (-1)).dropPlace
  return (s.allow false).take 3 token

def directive (s : Scan) : Except Error Scan := do
  let s ← (s.closeBlocks (-1)).dropPlace
  let (directive, c) ← Directive.read s.cursor
  return { (s.allow false).push (.directive directive) with cursor := c }

def openBracket (s : Scan) (token : Token) : Except Error Scan := do
  let s ← s.notePlace
  return ({ s with places := none :: s.places }.allow true).take 1 token

def closeBracket (s : Scan) (token : Token) : Except Error Scan := do
  let s ← s.dropPlace
  let places := if s.inFlow then s.places.drop 1 else s.places
  return ({ s with places := places }.allow false).take 1 token

def comma (s : Scan) : Except Error Scan := do
  let s ← s.dropPlace
  return (s.allow true).take 1 .comma

def entry (s : Scan) : Except Error Scan := do
  if !s.inFlow && !s.keyAllowed then throw .badToken
  let s ← (s.openBlock s.cursor.column s.count .sequenceStart).dropPlace
  return (s.allow true).take 1 .entry

def key (s : Scan) : Except Error Scan := do
  if !s.inFlow && !s.keyAllowed then throw .badToken
  let s ← (s.openBlock s.cursor.column s.count .mappingStart).dropPlace
  return (s.allow !s.inFlow).take 1 .key

/-- A colon. Only here a key is known as one, and the token for it is put in front of what has
started at the noted place. -/
def value (s : Scan) : Except Error Scan :=
  match s.places with
  | some place :: places =>
      let s := { s with places := none :: places }.insertAt place.before .key
      .ok (((s.openBlock place.column place.before .mappingStart).allow false).take 1 .value)
  | _ =>
      if !s.inFlow && !s.keyAllowed then .error .badToken
      else
        .ok (((s.openBlock s.cursor.column s.count .mappingStart).allow !s.inFlow).take 1 .value)

def anchor (s : Scan) (token : Text → Token) : Except Error Scan := do
  let s ← s.notePlace
  let (name, c) ← readAnchor s.cursor.advance
  return { (s.allow false).push (token name) with cursor := c }

def tag (s : Scan) : Except Error Scan := do
  let s ← s.notePlace
  let (tag, c) ← Tag.read s.inFlow s.cursor
  return { (s.allow false).push (.tag tag) with cursor := c }

def blockScalar (s : Scan) (folded : Bool) : Except Error Scan := do
  let s ← s.dropPlace
  let (text, c) ← Block.read folded s.indent s.cursor
  let style := if folded then Style.folded else .literal
  return { (s.allow true).push (.scalar text style) with cursor := c }

def quotedScalar (s : Scan) (quote : Char) : Except Error Scan := do
  let s ← s.notePlace
  let (text, c) ← Quoted.read quote s.cursor
  return { (s.allow false).push (.scalar text .quoted) with cursor := c }

def plainScalar (s : Scan) : Except Error Scan := do
  let s ← s.notePlace
  let (text, c, broken) ← Plain.read s.inFlow (s.indent + 1).toNat s.cursor
  return { (s.allow broken).push (.scalar text .plain) with cursor := c }

def next (s : Scan) (first : Char) : Except Error Scan :=
  let c := s.cursor
  let apart := endsWord (c.peek 1)
  if c.column = 0 && first = '%' then s.directive
  else if c.atMark '-' then s.documentMark .documentStart
  else if c.atMark '.' then s.documentMark .documentEnd
  else if first = '[' then s.openBracket .flowSequenceStart
  else if first = '{' then s.openBracket .flowMappingStart
  else if first = ']' then s.closeBracket .flowSequenceEnd
  else if first = '}' then s.closeBracket .flowMappingEnd
  else if first = ',' then s.comma
  else if first = '-' && apart then s.entry
  else if first = '?' && (s.inFlow || apart) then s.key
  else if first = ':' && (s.inFlow || apart) then s.value
  else if first = '*' then s.anchor .alias
  else if first = '&' then s.anchor .anchor
  else if first = '!' then s.tag
  else if first = '|' && !s.inFlow then s.blockScalar false
  else if first = '>' && !s.inFlow then s.blockScalar true
  else if first = '\'' || first = '"' then s.quotedScalar first
  else if Plain.startsHere s.inFlow c then s.plainScalar
  else .error .badToken

def toEnd : Nat → Scan → Except Error (List Token)
  | 0, _ => .error .badToken
  | fuel + 1, s =>
      match (skipBlank (s.cursor.rest.length + 1) s).dropStale with
      | .error error => .error error
      | .ok s =>
          let s := s.closeBlocks s.cursor.column
          match s.cursor.peek with
          | none => (s.closeBlocks (-1)).dropPlace.map fun s => s.reversed.reverse
          | some first =>
              match s.next first with
              | .error error => .error error
              | .ok s => toEnd fuel s

end Scan

def Token.scan (text : Text) : Except Error (List Token) :=
  if text.all isAllowed then Scan.toEnd (text.length + 2) { cursor := ⟨text, 0, 0, 0⟩ }
  else .error .badCharacter

end Stencil.Yaml
