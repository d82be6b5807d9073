import Stencil.Yaml.Cursor

set_option autoImplicit false

namespace Stencil.Yaml.Block

/-- What happens to line ends behind the last line. -/
inductive Chomp where
  | strip
  | clip
  | keep
deriving DecidableEq, Repr

def readChomp (c : Cursor) : Option (Chomp × Cursor) :=
  match c.peek with
  | some '+' => some (.keep, c.advance)
  | some '-' => some (.strip, c.advance)
  | _ => none

def readDigit (c : Cursor) : Except Error (Nat × Cursor) :=
  match c.peek with
  | some digit =>
      if digit = '0' then .error .badToken
      else if digit.isDigit then .ok (digit.toNat - '0'.toNat, c.advance)
      else .ok (0, c)
  | none => .ok (0, c)

def readHeader (c : Cursor) : Except Error (Chomp × Nat × Cursor) :=
  match readChomp c with
  | some (chomp, c) => (readDigit c).map fun (digit, c) => (chomp, digit, c)
  | none =>
      match readDigit c with
      | .error error => .error error
      | .ok (0, c) => .ok (.clip, 0, c)
      | .ok (digit, c) =>
          match readChomp c with
          | some (chomp, c) => .ok (chomp, digit, c)
          | none => .ok (.clip, digit, c)

/-- Reads indentation and empty lines: the line ends, the greatest column, and the place of the
next line's text. An unknown indentation is given as zero. The number bounds the steps. -/
def readEmpty (indent : Nat) : Nat → Text → Nat → Cursor → Except Error (Text × Nat × Cursor)
  | 0, ends, widest, c => .ok (ends, widest, c)
  | fuel + 1, ends, widest, c =>
      let spaces := (c.run (· = ' ')).length
      let c := c.advance (if indent = 0 then spaces else min spaces (indent - c.column))
      let widest := max widest c.column
      let loose := indent = 0 || c.column < indent
      if loose && c.peek = some '\t' then .error .badToken
      else if c.peek.any isBreak then
        readEmpty indent fuel (ends ++ c.lineEnd) widest c.advanceLine
      else .ok (ends, widest, c)

structure Lines where
  text : Text := []
  /-- The end of the last line. -/
  last : Text := []
  /-- The line ends behind that. -/
  trailing : Text := []
  indented : Bool := false

/-- The text up to the start of a new line. A literal scalar keeps its line ends, a folded one joins
lines that are not indented further. -/
def Lines.joined (lines : Lines) (folded indented : Bool) : Text :=
  if folded && lines.last.head? = some '\n' && !lines.indented && !indented then
    lines.text ++ (if lines.trailing.isEmpty then [' '] else []) ++ lines.trailing
  else lines.text ++ lines.last ++ lines.trailing

/-- Reads lines of a known indentation. The number bounds them. -/
def readLines (folded : Bool) (indent : Nat) : Nat → Lines → Cursor → Except Error (Lines × Cursor)
  | 0, lines, c => .ok (lines, c)
  | fuel + 1, lines, c =>
      if c.column = indent && !c.atEnd then
        let indented := c.peek.any isSpacing
        let line := c.run fun c => !isBreak c
        let text := lines.joined folded indented ++ line
        let c := c.advance line.length
        let last := c.lineEnd
        match readEmpty indent (c.rest.length + 1) [] 0 c.advanceLine with
        | .error error => .error error
        | .ok (trailing, _, c) => readLines folded indent fuel ⟨text, last, trailing, indented⟩ c
      else .ok (lines, c)

/-- Reads a block scalar at its bar or angle. The indentation of the surrounding block is
`parent`, negative outside any block. -/
def read (folded : Bool) (parent : Int) (c : Cursor) : Except Error (Text × Cursor) :=
  match readHeader c.advance with
  | .error error => .error error
  | .ok (chomp, digit, c) =>
      let c := c.skipComment
      if !(c.atEnd || c.peek.any isBreak) then .error .badToken
      else
        let c := c.advanceLine
        let given := if digit = 0 then 0 else (max parent 0).toNat + digit
        match readEmpty given (c.rest.length + 1) [] 0 c with
        | .error error => .error error
        | .ok (trailing, widest, c) =>
            let indent := if given = 0 then max widest (max (parent + 1).toNat 1) else given
            match readLines folded indent (c.rest.length + 1) { trailing := trailing } c with
            | .error error => .error error
            | .ok (lines, c) =>
                let tail := match chomp with
                  | .strip => []
                  | .clip => lines.last
                  | .keep => lines.last ++ lines.trailing
                .ok (lines.text ++ tail, c)

end Stencil.Yaml.Block
