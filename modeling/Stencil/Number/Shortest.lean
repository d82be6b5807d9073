import Stencil.Number.Double

set_option autoImplicit false

namespace Stencil.Double

/-- The reals that round to a number: its value and the two ends as numerators over one
denominator, the ends included if the significand is even. -/
structure Interval where
  low : Nat
  value : Nat
  high : Nat
  den : Nat
  closed : Bool
deriving Repr

/-- Below a power of two the neighbours are half as far apart. -/
def interval (d : Double) : Interval :=
  let m := d.significand
  let below := if m = Nat.pow 2 52 ∧ 1 < d.exponent.val then 1 else 2
  let q := d.scale - 2
  let up := Nat.pow 2 q.toNat
  ⟨(4 * m - below) * up, 4 * m * up, (4 * m + 2) * up, Nat.pow 2 (-q).toNat, m % 2 = 0⟩

namespace Interval

/-- Whether `count * 10 ^ power` rounds to the number, for `num / den` equal to `10 ^ power`. -/
def holds (i : Interval) (count num den : Nat) : Bool :=
  let point := count * num * i.den
  if i.closed then i.low * den ≤ point && point ≤ i.high * den
  else i.low * den < point && point < i.high * den

/-- The nearer of the two neighbours of the value on the grid of `10 ^ power` that round to the
number, the even one if they are equally near. -/
def onGrid? (i : Interval) (power : Int) : Option Nat :=
  let num := Nat.pow 10 power.toNat
  let den := Nat.pow 10 (-power).toNat
  let unit := num * i.den
  let scaled := i.value * den
  let below := scaled / unit
  let above := below + 1
  let rest := scaled % unit
  let belowHolds := 0 < below && i.holds below num den
  let aboveHolds := i.holds above num den
  if belowHolds && aboveHolds then
    if 2 * rest < unit then some below
    else if unit < 2 * rest then some above
    else if below % 2 = 0 then some below else some above
  else if belowHolds then some below
  else if aboveHolds then some above
  else none

/-- The first grid with a hit, from `power` downwards. -/
def search (i : Interval) : Nat → Int → Nat × Int
  | 0, power => (i.value * Nat.pow 10 (-power).toNat / (Nat.pow 10 power.toNat * i.den), power)
  | fuel + 1, power =>
      match i.onGrid? power with
      | some count => (count, power)
      | none => i.search fuel (power - 1)

end Interval

/-- Of the decimals that round to a number which is not zero, those on the coarsest grid of powers
of ten, and of these the one nearest to the number. The search starts above the number; seventeen
digits always suffice. -/
def shortest (d : Double) : Nat × Int :=
  let order := (d.significand.log2 : Int) + d.scale
  d.interval.search 24 (order * 30103 / 100000 + 2)

structure Layout where
  /-- Decimal orders written positionally: from `least` up to but not including `most`. -/
  least : Int
  most : Int

/-- Orders from -5 to 15 are positional, all others scientific. -/
def layout : Layout := ⟨-5, 16⟩

private def digitsOf (n : Nat) : List Char := Nat.toDigits 10 n

/-- The text of the magnitude `digits * 10 ^ power`: positional with at least one decimal, or a
point after the first digit, then a signed exponent. -/
def decimalText (digits : Nat) (power : Int) : List Char :=
  let cs := digitsOf digits
  let order : Int := cs.length + power - 1
  if layout.least ≤ order ∧ order < layout.most then
    if 0 ≤ power then cs ++ List.replicate power.toNat '0' ++ ['.', '0']
    else if 0 ≤ order then
      cs.take (order.toNat + 1) ++ '.' :: cs.drop (order.toNat + 1)
    else '0' :: '.' :: List.replicate (-order - 1).toNat '0' ++ cs
  else
    let mantissa := match cs with
      | [] => []
      | [first] => [first]
      | first :: more => first :: '.' :: more
    let sign := if order < 0 then '-' else '+'
    mantissa ++ 'e' :: sign :: digitsOf order.natAbs

def text (d : Double) : List Char :=
  let magnitude :=
    if d.isZero then ['0', '.', '0']
    else decimalText d.shortest.1 d.shortest.2
  if d.negative then '-' :: magnitude else magnitude

end Stencil.Double
