import Stencil.Number.Shortest

set_option autoImplicit false

namespace Stencil

/-- Integers and binary64 numbers stay apart even where they are equal. -/
inductive Number where
  | int (value : Int)
  | double (value : Double)
deriving DecidableEq, Repr

namespace Number

/-- The decimal digits of an integer, after a minus sign if it is negative. -/
def integerText : Int → List Char
  | .ofNat n => Nat.toDigits 10 n
  | .negSucc n => '-' :: Nat.toDigits 10 (n + 1)

def text : Number → List Char
  | int value => integerText value
  | double value => value.text

def isOne : Number → Bool
  | int value => value = 1
  | double value => value.isOne

end Number

end Stencil
