import Stencil.Yaml.Cursor
import Stencil.Json.Reader

set_option autoImplicit false

namespace Stencil.Yaml

/-- A tag as it is written: `!` and a name stand apart from a handle and a rest. The rest is bytes,
for its escapes need not be well-formed UTF-8. -/
structure Tag where
  handle : Text
  suffix : List UInt8
deriving DecidableEq, Repr

inductive Directive where
  | version (major minor : Nat)
  | handle (name : Text) (meaning : List UInt8)
deriving DecidableEq, Repr

namespace Tag

/-- A character that a tag may hold besides an escape. The wider set is that between angles. -/
def isTagChar (wide : Bool) (c : Char) : Bool :=
  isNameChar c || [';', '/', '?', ':', '@', '&', '=', '+', '$', '.', '!', '~', '*', '\'', '(',
    ')'].contains c || (wide && [',', '[', ']'].contains c)

def escapedByte? (text : Text) : Option UInt8 :=
  match text with
  | '%' :: a :: b :: _ => do
      let a ← Json.hexValue? a
      let b ← Json.hexValue? b
      return UInt8.ofNat (a * 16 + b)
  | _ => none

/-- The bytes of escapes that follow one another, as many as are wanted. -/
def escapedBytes? : Nat → Text → Option (List UInt8)
  | 0, _ => some []
  | count + 1, text => do
      let byte ← escapedByte? text
      let more ← escapedBytes? count (text.drop 3)
      return byte :: more

/-- How many bytes an escaped character takes, by the first of them. -/
def width? (b : UInt8) : Option Nat :=
  if b < 0x80 then some 1
  else if b < 0xC0 then none
  else if b < 0xE0 then some 2
  else if b < 0xF0 then some 3
  else if b < 0xF8 then some 4
  else none

/-- Reads the escapes of one character. That its bytes are in the right ranges is enough. -/
def readEscaped (c : Cursor) : Except Error (List UInt8 × Cursor) :=
  match (escapedByte? c.rest).bind width? with
  | none => .error .badToken
  | some width =>
      match escapedBytes? width c.rest with
      | none => .error .badToken
      | some bytes =>
          if (bytes.drop 1).all Utf8.isTail then .ok (bytes, c.advance (3 * width))
          else .error .badToken

/-- Reads the characters of a tag onto the bytes so far. The number bounds the steps. -/
def readChars (wide : Bool) : Nat → List UInt8 → Cursor → Except Error (List UInt8 × Cursor)
  | 0, done, c => .ok (done, c)
  | fuel + 1, done, c =>
      match c.peek with
      | none => .ok (done, c)
      | some next =>
          if next = '%' then
            match readEscaped c with
            | .error error => .error error
            | .ok (bytes, c) => readChars wide fuel (done ++ bytes) c
          else if isTagChar wide next then
            readChars wide fuel (done ++ Utf8.encodeChar next) c.advance
          else .ok (done, c)

def readBytes (wide : Bool) (c : Cursor) : Except Error (List UInt8 × Cursor) :=
  readChars wide (c.rest.length + 1) [] c

/-- The part of a tag that counts: a zero byte ends it. -/
def clip (bytes : List UInt8) : List UInt8 := bytes.takeWhile (· ≠ 0)

/-- Reads a handle at its exclamation mark: that, a name, and perhaps a second mark. -/
def readHandle (c : Cursor) : Text × Cursor :=
  let name := c.advance.run isNameChar
  let c := c.advance (name.length + 1)
  if c.peek = some '!' then ('!' :: name ++ ['!'], c.advance) else ('!' :: name, c)

def bare : List UInt8 := Utf8.encode ['!']

def readVerbatim (c : Cursor) : Except Error (Tag × Cursor) :=
  match readBytes true c.advance with
  | .error error => .error error
  | .ok (bytes, c) =>
      if bytes.isEmpty || c.peek ≠ some '>' then .error .badToken
      else .ok (⟨[], clip bytes⟩, c.advance)

/-- Reads a tag with a handle, or with a single mark and a name. -/
def readShort (c : Cursor) : Except Error (Tag × Cursor) :=
  let (handle, c) := readHandle c
  if 1 < handle.length && handle.getLast? = some '!' then
    match readBytes false c with
    | .error error => .error error
    | .ok (bytes, c) =>
        if bytes.isEmpty then .error .badToken else .ok (⟨handle, clip bytes⟩, c)
  else
    match readBytes false c with
    | .error error => .error error
    | .ok (bytes, c) =>
        let suffix := clip (Utf8.encode (handle.drop 1) ++ bytes)
        .ok (if suffix.isEmpty then ⟨[], bare⟩ else ⟨['!'], suffix⟩, c)

/-- Reads a tag at its exclamation mark. A blank, or a comma inside brackets, ends it. -/
def read (inFlow : Bool) (c : Cursor) : Except Error (Tag × Cursor) :=
  match if c.peek 1 = some '<' then readVerbatim c.advance else readShort c with
  | .error error => .error error
  | .ok (tag, c) =>
      if endsWord c.peek || (inFlow && c.peek = some ',') then .ok (tag, c) else .error .badToken

end Tag

def readAnchor (c : Cursor) : Except Error (Text × Cursor) :=
  let name := c.run isNameChar
  let c := c.advance name.length
  let ended := endsWord c.peek ||
    c.peek.any fun c => ['?', ':', ',', ']', '}', '%', '@', '\x60'].contains c
  if name.isEmpty || !ended then .error .badToken else .ok (name, c)

namespace Directive

def readNumber (c : Cursor) : Except Error (Nat × Cursor) :=
  let digits := c.run Char.isDigit
  if digits.isEmpty || 9 < digits.length then .error .badDirective
  else .ok (digits.foldl (fun n d => n * 10 + (d.toNat - '0'.toNat)) 0, c.advance digits.length)

def readVersion (c : Cursor) : Except Error (Directive × Cursor) :=
  match readNumber (c.skip isSpacing) with
  | .error error => .error error
  | .ok (major, c) =>
      if c.peek ≠ some '.' then .error .badDirective
      else (readNumber c.advance).map fun (minor, c) => (.version major minor, c)

def readMeaning (c : Cursor) : Except Error (Directive × Cursor) :=
  let c := c.skip isSpacing
  if c.peek ≠ some '!' then .error .badDirective
  else
    let (name, c) := Tag.readHandle c
    if name ≠ ['!'] && name.getLast? ≠ some '!' || !(c.peek.any isSpacing) then
      .error .badDirective
    else
      match Tag.readBytes true (c.skip isSpacing) with
      | .error error => .error error
      | .ok (bytes, c) =>
          if bytes.isEmpty || !endsWord c.peek then .error .badDirective
          else .ok (.handle name (Tag.clip bytes), c)

/-- Reads a directive at its percent sign, through the end of its line. -/
def read (c : Cursor) : Except Error (Directive × Cursor) :=
  let c := c.advance
  let name := c.run isNameChar
  let c := c.advance name.length
  if !endsWord c.peek then .error .badDirective
  else
    match if name = ['Y', 'A', 'M', 'L'] then readVersion c
      else if name = ['T', 'A', 'G'] then readMeaning c
      else .error .badDirective with
    | .error error => .error error
    | .ok (directive, c) =>
        let c := c.skipComment
        if c.atEnd || c.peek.any isBreak then .ok (directive, c.advanceLine)
        else .error .badDirective

end Directive

end Stencil.Yaml
