import Stencil.Yaml.Scalar.Fold

set_option autoImplicit false

namespace Stencil.Yaml.Plain

def isBracket (c : Char) : Bool := c = '[' || c = ']' || c = '{' || c = '}'

def startsHere (inFlow : Bool) (c : Cursor) : Bool :=
  match c.peek with
  | none => false
  | some first =>
      if first = '-' then !((c.peek 1).any isSpacing)
      else if first = '?' || first = ':' then !inFlow && !endsWord (c.peek 1)
      else
        !(isSpacing first || isBreak first || isBracket first ||
          [',', '#', '&', '*', '!', '|', '>', '\'', '"', '%', '@', '\x60'].contains first)

/-- Whether the scalar ends before this character. -/
def endsHere (inFlow : Bool) (next : Char) (after : Option Char) : Bool :=
  (next = ':' && endsWord after) || (inFlow && (next = ',' || isBracket next))

/-- A colon that cannot stand inside brackets. -/
def isMisplaced (inFlow : Bool) (next : Char) (after : Option Char) : Bool :=
  inFlow && next = ':' && after.any fun c => c = ',' || c = '?' || isBracket c

/-- Reads a stretch without blanks onto the reversed text so far, after the gap before it. The
number bounds the steps. -/
def readWord (inFlow : Bool) : Nat → Text → Text → Cursor → Except Error (Text × Cursor)
  | 0, _, _, _ => .error .badToken
  | fuel + 1, gap, done, c =>
      match c.peek with
      | none => .ok (done, c)
      | some next =>
          if isSpacing next || isBreak next then .ok (done, c)
          else if isMisplaced inFlow next (c.peek 1) then .error .badToken
          else if endsHere inFlow next (c.peek 1) then .ok (done, c)
          else readWord inFlow fuel [] (next :: (gap.reverse ++ done)) c.advance

/-- Reads stretches and the gaps between them. The last answer tells whether the scalar ended
behind a line end. The first number bounds the stretches, `margin` is the least indentation. -/
def readRest (inFlow : Bool) (margin : Nat) :
    Nat → Gap → Text → Cursor → Except Error (Text × Cursor × Bool)
  | 0, _, _, _ => .error .badToken
  | fuel + 1, gap, done, c =>
      if c.atDocumentMark || c.peek = some '#' then .ok (done.reverse, c, gap.broken)
      else
        match readWord inFlow (c.rest.length + 1) gap.text done c with
        | .error error => .error error
        | .ok (more, behind) =>
            let pending := if behind.index = c.index then gap else {}
            if !(behind.peek.any fun c => isSpacing c || isBreak c) then
              .ok (more.reverse, behind, pending.broken)
            else
              match Gap.read margin (behind.rest.length + 1) pending behind with
              | .error error => .error error
              | .ok (gap, c) =>
                  if !inFlow && c.column < margin then .ok (more.reverse, c, gap.broken)
                  else readRest inFlow margin fuel gap more c

/-- Reads a plain scalar, up to a colon or a comment that stands apart, to a line that is indented
too little, and, inside brackets, to a comma or bracket. -/
def read (inFlow : Bool) (margin : Nat) (c : Cursor) : Except Error (Text × Cursor × Bool) :=
  readRest inFlow margin (c.rest.length + 1) {} [] c

end Stencil.Yaml.Plain
