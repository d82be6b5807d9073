set_option autoImplicit false

namespace Stencil

/-- A finite binary64 number as data. All arithmetic is on naturals: an exact quotient is rounded
once, to the nearest number and to the even one of two. -/
structure Double where
  negative : Bool
  exponent : Fin 2047
  fraction : Fin (Nat.pow 2 52)
deriving DecidableEq, Repr

namespace Double

def zero (negative : Bool) : Double := ⟨negative, 0, 0⟩

instance : Inhabited Double := ⟨zero false⟩

/-- The magnitude is `significand * 2 ^ scale`. -/
def significand (d : Double) : Nat :=
  if d.exponent.val = 0 then d.fraction.val else Nat.pow 2 52 + d.fraction.val

def scale (d : Double) : Int := max d.exponent.val 1 - 1075

def isZero (d : Double) : Bool := d.significand = 0

def ratio (d : Double) : Nat × Nat :=
  (d.significand * Nat.pow 2 d.scale.toNat, Nat.pow 2 (-d.scale).toNat)

def isOne (d : Double) : Bool :=
  !d.negative && d.ratio.1 = d.ratio.2

/-- The integer nearest to a quotient, the even one of two. -/
def nearestEven (num den : Nat) : Nat :=
  let low := num / den
  let rest := num % den
  if 2 * rest < den then low
  else if den < 2 * rest then low + 1
  else if low % 2 = 0 then low else low + 1

/-- The greatest `e` with `2 ^ e ≤ num / den`, for positive `num` and `den`. -/
def binaryOrder (num den : Nat) : Int :=
  let guess : Int := (num.log2 : Int) - den.log2
  if num * Nat.pow 2 (-guess).toNat < den * Nat.pow 2 guess.toNat then guess - 1 else guess

/-- The number with a given significand and scale, `none` if it is too large. -/
def ofParts? (negative : Bool) (significand : Nat) (scale : Int) : Option Double :=
  if small : significand < Nat.pow 2 52 then some ⟨negative, 0, ⟨significand, small⟩⟩
  else
    let exponent := (scale + 1075).toNat
    if fits : exponent < 2047 then
      if short : significand - Nat.pow 2 52 < Nat.pow 2 52 then
        some ⟨negative, ⟨exponent, fits⟩, ⟨significand - Nat.pow 2 52, short⟩⟩
      else if carried : exponent + 1 < 2047 then some ⟨negative, ⟨exponent + 1, carried⟩, 0⟩
      else none
    else none

/-- The number nearest to a quotient, `none` if that is beyond the largest one. -/
def nearest? (negative : Bool) (num den : Nat) : Option Double :=
  if num = 0 then some (zero negative)
  else
    let scale := max (binaryOrder num den - 52) (-1074)
    ofParts? negative
      (nearestEven (num * Nat.pow 2 (-scale).toNat) (den * Nat.pow 2 scale.toNat)) scale

def mul? (a b : Double) : Option Double :=
  nearest? (a.negative != b.negative) (a.ratio.1 * b.ratio.1) (a.ratio.2 * b.ratio.2)

def div? (a b : Double) : Option Double :=
  nearest? (a.negative != b.negative) (a.ratio.1 * b.ratio.2) (a.ratio.2 * b.ratio.1)

/-- The number nearest to `digits * 10 ^ power`. Quotients far outside the range are settled
by their order of magnitude alone. -/
def ofDecimal? (negative : Bool) (digits : Nat) (power : Int) : Option Double :=
  let order : Int := (Nat.toDigits 10 digits).length + power
  if digits = 0 then some (zero negative)
  else if 400 < order then none
  else if order < -400 then some (zero negative)
  else nearest? negative (digits * Nat.pow 10 power.toNat) (Nat.pow 10 (-power).toNat)

end Double

end Stencil
