import Stencil.Text.CaseTable

set_option autoImplicit false

namespace Stencil.Text

private def inRanges (ranges : List (Nat × Nat)) (n : Nat) : Bool :=
  ranges.any fun range => range.1 ≤ n && n ≤ range.2

def isCased (c : Char) : Bool := inRanges casedRanges c.toNat

def isCaseIgnorable (c : Char) : Bool := inRanges ignorableRanges c.toNat

private def mapped (ranges : List CaseRange) (expansions : List (Nat × List Nat)) (c : Char) :
    Text :=
  match ranges.find? (·.holds c.toNat) with
  | some range => [Char.ofNat (c.toNat + range.shift).toNat]
  | none =>
      match expansions.find? (·.1 = c.toNat) with
      | some (_, image) => image.map Char.ofNat
      | none => [c]

/-- The uppercase of a character on its own. -/
def upperChar (c : Char) : Text :=
  if c.toNat < 0x80 then [c.toUpper] else mapped upperRanges upperExpansions c

def lowerChar (c : Char) : Text :=
  if c.toNat < 0x80 then [c.toLower] else mapped lowerRanges lowerExpansions c

/-- Whether a letter with case comes first, characters passed over apart. -/
def casedAhead (text : Text) : Bool :=
  match text.dropWhile isCaseIgnorable with
  | [] => false
  | c :: _ => isCased c

def upper (text : Text) : Text := text.flatMap upperChar

/-- Lowers a text that stands after the reversed text `before`. A capital sigma at the end of a word
becomes a final sigma. -/
def lowerAfter (before : Text) : Text → Text
  | [] => []
  | c :: text =>
      (if c = 'Σ' then (if casedAhead before && !casedAhead text then ['ς'] else ['σ'])
        else lowerChar c) ++ lowerAfter (c :: before) text

def lower (text : Text) : Text := lowerAfter [] text

end Stencil.Text
