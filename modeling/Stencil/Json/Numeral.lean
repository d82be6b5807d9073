import Stencil.Text
import Stencil.Number

set_option autoImplicit false

namespace Stencil.Json

def isDigit (c : Char) : Bool := '0' ≤ c && c ≤ '9'

def digitValue (c : Char) : Nat := c.toNat - '0'.toNat

def digitAhead : Text → Bool
  | [] => false
  | c :: _ => isDigit c

/-- Reads digits onto a number while the result is below `2 ^ 64`: the number, how many digits
were read, and what follows them. -/
def keepDigits (kept count : Nat) : Text → Nat × Nat × Text
  | [] => (kept, count, [])
  | c :: text =>
      if isDigit c && kept * 10 + digitValue c < Nat.pow 2 64 then
        keepDigits (kept * 10 + digitValue c) (count + 1) text
      else (kept, count, c :: text)

/-- The number that a run of digits writes, and what follows the run. -/
def naturalOf (text : Text) : Nat × Text :=
  ((text.takeWhile isDigit).foldl (fun n c => n * 10 + digitValue c) 0, text.dropWhile isDigit)

def powerOfTen? (n : Nat) : Option Double := Double.nearest? false (Nat.pow 10 n) 1

/-- Divides by `10 ^ n` in steps of at most `10 ^ 308`. -/
def divideByTens? (d : Double) (n : Nat) : Option Double :=
  if n ≤ 308 then (powerOfTen? n).bind d.div?
  else if d.isZero then some d
  else (powerOfTen? 308).bind d.div? >>= fun smaller => divideByTens? smaller (n - 308)
termination_by n

/-- The number that `digits * 10 ^ power` is read as. -/
def scaled? (negative : Bool) (digits : Nat) (power : Int) : Option Double :=
  (Double.nearest? negative digits 1).bind fun d =>
    if power < 0 then divideByTens? d power.natAbs
    else if d.isZero then some d
    else if power ≤ 308 then (powerOfTen? power.natAbs).bind d.mul?
    else none

private def asDouble (number : Option Double) (rest : Text) : Option (Number × Text) :=
  number.map fun d => (.double d, rest)

/-- Reads the digits of an exponent, after its letter. -/
def readExponent (negative : Bool) (digits : Nat) (power : Int) (text : Text) :
    Option (Number × Text) :=
  let (down, text) := match text with
    | '+' :: rest => (false, rest)
    | '-' :: rest => (true, rest)
    | _ => (false, text)
  if digitAhead text then
    let (exponent, rest) := naturalOf text
    asDouble (scaled? negative digits (if down then power - exponent else power + exponent)) rest
  else none

/-- Reads what may follow the digits of a number: an exponent or nothing. -/
def readScale (negative : Bool) (digits : Nat) (power : Int) : Text → Option (Number × Text)
  | 'e' :: rest => readExponent negative digits power rest
  | 'E' :: rest => readExponent negative digits power rest
  | rest => asDouble (scaled? negative digits power) rest

def readFraction (negative : Bool) (digits : Nat) (power : Int) (text : Text) :
    Option (Number × Text) :=
  if digitAhead text then
    let (kept, count, rest) := keepDigits digits 0 text
    readScale negative kept (power - count) (rest.dropWhile isDigit)
  else none

def integer? (negative : Bool) (digits : Nat) : Option Number :=
  if !negative then some (.int digits)
  else if 0 < digits ∧ digits ≤ Nat.pow 2 63 then some (.int (-digits))
  else (Double.nearest? true digits 1).map .double

/-- Reads what follows digits that were all kept. -/
def readRest (negative : Bool) (digits : Nat) : Text → Option (Number × Text)
  | '.' :: rest => readFraction negative digits 0 rest
  | 'e' :: rest => readExponent negative digits 0 rest
  | 'E' :: rest => readExponent negative digits 0 rest
  | rest => (integer? negative digits).map fun number => (number, rest)

def readMagnitude (negative : Bool) (text : Text) : Option (Number × Text) :=
  match text with
  | [] => none
  | '0' :: rest => if digitAhead rest then none else readRest negative 0 rest
  | first :: _ =>
      if !isDigit first then none
      else
        let (kept, _, rest) := keepDigits 0 0 text
        if digitAhead rest then
          let dropped := (rest.takeWhile isDigit).length
          match rest.dropWhile isDigit with
          | '.' :: rest => readFraction negative kept dropped rest
          | rest => readScale negative kept dropped rest
        else readRest negative kept rest

/-- Reads a numeral. Without point and exponent it is an integer if it lies in `[-2 ^ 63, 2 ^ 64 -
1]`, except for minus zero. Any other is a binary64 number: its leading digits, as far as they fit
in 64 bits, are rounded, and the result is scaled by rounded powers of ten. -/
def readNumeral : Text → Option (Number × Text)
  | '-' :: rest => readMagnitude true rest
  | text => readMagnitude false text

end Stencil.Json
