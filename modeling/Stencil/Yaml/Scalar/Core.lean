import Stencil.Number
import Stencil.Json.Reader

set_option autoImplicit false

namespace Stencil.Yaml

inductive Core where
  | null
  | bool (value : Bool)
  | int (value : Int)
  | double (value : Double)
  | infinite
  /-- Its own text. -/
  | verbatim
deriving DecidableEq, Repr

namespace Core

def isNull (text : Text) : Bool :=
  text.isEmpty || ["null", "Null", "NULL", "~"].any (·.toList = text)

def bool? (text : Text) : Option Bool :=
  if ["true", "True", "TRUE"].any (·.toList = text) then some true
  else if ["false", "False", "FALSE"].any (·.toList = text) then some false
  else none

def dropPlus : Text → Text
  | '+' :: text => text
  | text => text

def startsSigned (text : Text) : Bool := text.head? = some '+' || text.head? = some '-'

def isZeroLed (text : Text) : Bool :=
  let digits := if startsSigned text then text.drop 1 else text
  1 < digits.length && digits.head? = some '0' && digits.all Json.isDigit

/-- The digits of a base, one or more of them. -/
def naturalIn? (base : Nat) (digits : Text) : Option Nat :=
  if digits.isEmpty then none
  else
    digits.foldlM
      (fun n c => (Json.hexValue? c).bind fun d => if d < base then some (n * base + d) else none)
      0

/-- The bases that have a mark, and their marks. -/
def bases : List (Text × Nat) := [(['0', 'x'], 16), (['0', 'o'], 8), (['0', 'b'], 2)]

def marked? (text : Text) : Option Nat :=
  bases.findSome? fun (mark, base) => (mark.isPrefixOf? text).bind (naturalIn? base)

def integer? (text : Text) : Option Int :=
  match text with
  | '-' :: digits =>
      match marked? digits with
      | some n => some (-n)
      | none => if isZeroLed text then none else (naturalIn? 10 digits).map fun n => -n
  | _ =>
      let digits := dropPlus text
      match marked? digits with
      | some n => some n
      | none => if isZeroLed digits then none else (naturalIn? 10 digits).map Int.ofNat

/-- A decimal with a point, an exponent or both: its digits and the power of ten they count. -/
def decimal? (text : Text) : Option (Nat × Int) :=
  let whole := text.takeWhile Json.isDigit
  let behind := text.dropWhile Json.isDigit
  let fraction := match behind with
    | '.' :: more => more.takeWhile Json.isDigit
    | _ => []
  let behind := match behind with
    | '.' :: more => more.dropWhile Json.isDigit
    | _ => behind
  if whole.isEmpty && fraction.isEmpty then none
  else
    let digits := (Json.naturalOf (whole ++ fraction)).1
    let places : Int := fraction.length
    match behind with
    | [] => some (digits, -places)
    | letter :: more =>
        if letter ≠ 'e' && letter ≠ 'E' then none
        else
          let down := more.head? = some '-'
          let exponent := if startsSigned more then more.drop 1 else more
          (naturalIn? 10 exponent).map fun n => (digits, (if down then -n else n : Int) - places)

def double? (text : Text) : Option Core :=
  let unsigned := dropPlus text
  if text.head? = some '+' && startsSigned unsigned then none
  else if [".inf", ".Inf", ".INF"].any (·.toList = unsigned) then some infinite
  else if ["-.inf", "-.Inf", "-.INF", ".nan", ".NaN", ".NAN"].any (·.toList = text) then
    some infinite
  else
    let negative := unsigned.head? = some '-'
    (decimal? (if negative then unsigned.drop 1 else unsigned)).bind fun (digits, power) =>
      (Double.ofDecimal? negative digits power).map double

/-- What a plain scalar stands for. Integers may be written in hexadecimal, octal or binary; digits
behind a leading zero are text; integers beyond 64 bits, up to 128 bits, are refused. -/
def of (text : Text) : Core :=
  if isNull text then null
  else
    match bool? text with
    | some b => bool b
    | none =>
        match integer? text with
        | some n => int n
        | none => if isZeroLed text then verbatim else (double? text).getD verbatim

/-- Integers that a value can hold. -/
def fits (n : Int) : Bool := -(Nat.pow 2 63 : Nat) ≤ n && n < (Nat.pow 2 64 : Nat)

def isWide (n : Int) : Bool := -(Nat.pow 2 127 : Nat) ≤ n && n < (Nat.pow 2 128 : Nat)

end Core

end Stencil.Yaml
