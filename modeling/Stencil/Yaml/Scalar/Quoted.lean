import Stencil.Yaml.Scalar.Fold
import Stencil.Json.Reader

set_option autoImplicit false

namespace Stencil.Yaml.Quoted

/-- What a single character after a backslash stands for. -/
def escaped? (c : Char) : Option Char :=
  match c with
  | '0' => some '\x00'
  | 'a' => some '\x07'
  | 'b' => some '\x08'
  | 't' => some '\t'
  | '\t' => some '\t'
  | 'n' => some '\n'
  | 'v' => some '\x0b'
  | 'f' => some '\x0c'
  | 'r' => some '\r'
  | 'e' => some '\x1b'
  | ' ' => some ' '
  | '"' => some '"'
  | '/' => some '/'
  | '\\' => some '\\'
  | 'N' => some '\u0085'
  | '_' => some '\u00a0'
  | 'L' => some '\u2028'
  | 'P' => some '\u2029'
  | _ => none

/-- How many hexadecimal digits follow an escape's letter. -/
def codeLength? (c : Char) : Option Nat :=
  match c with
  | 'x' => some 2
  | 'u' => some 4
  | 'U' => some 8
  | _ => none

def codePoint? (digits : Text) : Option Nat :=
  digits.foldlM (fun n c => (Json.hexValue? c).map (n * 16 + ·)) 0

/-- Reads an escape at its backslash: the character and the place behind it. -/
def readEscape (c : Cursor) : Except Error (Char × Cursor) :=
  match c.peek 1 with
  | none => .error .badToken
  | some letter =>
      match escaped? letter, codeLength? letter with
      | some char, _ => .ok (char, c.advance 2)
      | none, none => .error .badToken
      | none, some length =>
          let digits := (c.rest.drop 2).take length
          match codePoint? digits with
          | none => .error .badToken
          | some n =>
              if digits.length < length || (0xD800 ≤ n && n ≤ 0xDFFF) || 0x10FFFF < n then
                .error .badToken
              else .ok (Char.ofNat n, c.advance (2 + length))

/-- What ends a stretch without blanks. -/
inductive Stop where
  | quote
  | gap
  /-- A line end behind a backslash. -/
  | joined

/-- Reads a stretch without blanks onto the reversed text so far. The number bounds the steps. -/
def readWord (quote : Char) : Nat → Text → Cursor → Except Error (Text × Stop × Cursor)
  | 0, _, _ => .error .badToken
  | fuel + 1, done, c =>
      match c.peek with
      | none => .ok (done, .gap, c)
      | some next =>
          if isSpacing next || isBreak next then .ok (done, .gap, c)
          else if next = quote then
            if quote = '\'' && c.peek 1 = some '\'' then
              readWord quote fuel ('\'' :: done) (c.advance 2)
            else .ok (done, .quote, c)
          else if quote = '"' && next = '\\' then
            if (c.peek 1).any isBreak then .ok (done, .joined, c.advance.advanceLine)
            else
              match readEscape c with
              | .error error => .error error
              | .ok (char, c) => readWord quote fuel (char :: done) c
          else readWord quote fuel (next :: done) c.advance

/-- Reads a scalar behind its opening quote onto the reversed text so far, through its closing
quote. The number bounds the stretches. -/
def readRest (quote : Char) : Nat → Text → Cursor → Except Error (Text × Cursor)
  | 0, _, _ => .error .badToken
  | fuel + 1, done, c =>
      if c.atDocumentMark || c.atEnd then .error .badToken
      else
        match readWord quote (c.rest.length + 1) done c with
        | .error error => .error error
        | .ok (done, .quote, c) => .ok (done.reverse, c.advance)
        | .ok (done, stop, c) =>
            let start : Gap := match stop with
              | .joined => { broken := true }
              | _ => {}
            match Gap.read 0 (c.rest.length + 1) start c with
            | .error error => .error error
            | .ok (gap, c) =>
                readRest quote fuel (gap.text.reverse ++ done) c

/-- Reads a scalar at its opening quote. Between single quotes a quote is written twice; between
double quotes a backslash starts an escape, and one before a line end joins the lines. -/
def read (quote : Char) (c : Cursor) : Except Error (Text × Cursor) :=
  readRest quote (c.rest.length + 1) [] c.advance

end Stencil.Yaml.Quoted
