import Stencil.Yaml.Cursor

set_option autoImplicit false

namespace Stencil.Yaml

/-- Blanks and line ends between two words of a scalar. -/
structure Gap where
  /-- Blanks before any line end. -/
  blanks : Text := []
  broken : Bool := false
  first : Text := []
  more : Text := []
deriving Repr

namespace Gap

/-- Blanks on one line stay as they are; a single line end becomes a space; of several, all but the
first are kept. -/
def text (gap : Gap) : Text :=
  if !gap.broken then gap.blanks
  else if gap.first.head? = some '\n' then
    if gap.more.isEmpty then [' '] else gap.more
  else gap.first ++ gap.more

/-- Reads a gap as far as it goes. Behind a line end, a tab must not stand left of `margin`. The
number bounds the steps. -/
def read (margin : Nat) : Nat → Gap → Cursor → Except Error (Gap × Cursor)
  | 0, gap, c => .ok (gap, c)
  | fuel + 1, gap, c =>
      match c.peek with
      | none => .ok (gap, c)
      | some next =>
          if isSpacing next then
            if gap.broken then
              if next = '\t' && c.column < margin then .error .badToken
              else read margin fuel gap c.advance
            else read margin fuel { gap with blanks := gap.blanks ++ [next] } c.advance
          else if isBreak next then
            if gap.broken then
              read margin fuel { gap with more := gap.more ++ c.lineEnd } c.advanceLine
            else
              read margin fuel { gap with blanks := [], broken := true, first := c.lineEnd }
                c.advanceLine
          else .ok (gap, c)

end Gap

end Stencil.Yaml
