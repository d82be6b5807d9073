import Stencil.Value
import Stencil.Json.Numeral

set_option autoImplicit false

namespace Stencil.Json

def isSpace (c : Char) : Bool := c = ' ' || c = '\n' || c = '\t' || c = '\r'

def skipSpace (text : Text) : Text := text.dropWhile isSpace

def hexValue? (c : Char) : Option Nat :=
  if '0' ≤ c && c ≤ '9' then some (c.toNat - '0'.toNat)
  else if 'a' ≤ c && c ≤ 'f' then some (c.toNat - 'a'.toNat + 10)
  else if 'A' ≤ c && c ≤ 'F' then some (c.toNat - 'A'.toNat + 10)
  else none

def codeUnit? (a b c d : Char) : Option Nat := do
  let a ← hexValue? a
  let b ← hexValue? b
  let c ← hexValue? c
  let d ← hexValue? d
  return ((a * 16 + b) * 16 + c) * 16 + d

/-- What a single letter after a backslash stands for. -/
def unescape? (c : Char) : Option Char :=
  if c = '"' then some '"'
  else if c = '\\' then some '\\'
  else if c = '/' then some '/'
  else if c = 'b' then some '\x08'
  else if c = 'f' then some '\x0c'
  else if c = 'n' then some '\n'
  else if c = 'r' then some '\r'
  else if c = 't' then some '\t'
  else none

private def onto (c : Char) (read : Option (Text × Text)) : Option (Text × Text) :=
  read.map fun (text, rest) => (c :: text, rest)

/-- Reads a string after its opening quote: the characters and what follows the closing one. -/
def readString : Text → Option (Text × Text)
  | [] => none
  | '"' :: rest => some ([], rest)
  | '\\' :: 'u' :: a :: b :: c :: d :: rest =>
      match codeUnit? a b c d with
      | none => none
      | some unit =>
          if unit < 0xD800 ∨ 0xDFFF < unit then onto (Char.ofNat unit) (readString rest)
          else if 0xDBFF < unit then none
          else
            match rest with
            | '\\' :: 'u' :: e :: f :: g :: h :: after =>
                match codeUnit? e f g h with
                | none => none
                | some low =>
                    if 0xDC00 ≤ low ∧ low ≤ 0xDFFF then
                      onto (Char.ofNat (0x10000 + (unit - 0xD800) * 0x400 + (low - 0xDC00)))
                        (readString after)
                    else none
            | _ => none
  | '\\' :: letter :: rest =>
      match unescape? letter with
      | none => none
      | some c => onto c (readString rest)
  | c :: rest => if c.toNat < 0x20 ∨ c = '\\' then none else onto c (readString rest)

mutual

/-- Reads a value. The first number bounds the calls, the second the nesting. -/
def readValue : Nat → Nat → Text → Option (Value × Text)
  | 0, _, _ => none
  | fuel + 1, depth, text =>
      match skipSpace text with
      | 'n' :: 'u' :: 'l' :: 'l' :: rest => some (.null, rest)
      | 't' :: 'r' :: 'u' :: 'e' :: rest => some (.bool true, rest)
      | 'f' :: 'a' :: 'l' :: 's' :: 'e' :: rest => some (.bool false, rest)
      | '"' :: rest => (readString rest).map fun (text, rest) => (.string text, rest)
      | '[' :: rest =>
          if depth = 0 then none
          else
            match skipSpace rest with
            | ']' :: rest => some (.array [], rest)
            | rest =>
                (readItems fuel (depth - 1) rest).map fun (items, rest) => (.array items, rest)
      | '{' :: rest =>
          if depth = 0 then none
          else
            match skipSpace rest with
            | '}' :: rest => some (.object [], rest)
            | rest =>
                (readFields fuel (depth - 1) rest).map fun (fields, rest) =>
                  (.object (Table.ofList fields).entries, rest)
      | rest => (readNumeral rest).map fun (number, rest) => (.number number, rest)

/-- Reads the items of an array up to and including its bracket. -/
def readItems : Nat → Nat → Text → Option (List Value × Text)
  | 0, _, _ => none
  | fuel + 1, depth, text =>
      match readValue fuel depth text with
      | none => none
      | some (item, rest) =>
          match skipSpace rest with
          | ']' :: rest => some ([item], rest)
          | ',' :: rest =>
              (readItems fuel depth rest).map fun (items, rest) => (item :: items, rest)
          | _ => none

def readFields : Nat → Nat → Text → Option (List (Text × Value) × Text)
  | 0, _, _ => none
  | fuel + 1, depth, text =>
      match skipSpace text with
      | '"' :: rest =>
          match readString rest with
          | none => none
          | some (key, rest) =>
              match skipSpace rest with
              | ':' :: rest =>
                  match readValue fuel depth rest with
                  | none => none
                  | some (value, rest) =>
                      match skipSpace rest with
                      | '}' :: rest => some ([(key, value)], rest)
                      | ',' :: rest =>
                          (readFields fuel depth rest).map fun (fields, rest) =>
                            ((key, value) :: fields, rest)
                      | _ => none
              | _ => none
      | _ => none

end

def maxDepth : Nat := 127

/-- The value that a whole text writes. A repeated key keeps its place and takes its last value, and
an escaped surrogate stands only in a pair. -/
def read? (text : Text) : Option Value :=
  match readValue (2 * text.length + 2) maxDepth text with
  | some (value, rest) => if skipSpace rest = [] then some value else none
  | none => none

end Stencil.Json
