import Mathlib.Algebra.Field.Rat
import Mathlib.Algebra.Order.Ring.Unbundled.Rat
import Mathlib.Algebra.Order.Field.Basic
import Mathlib.Tactic.Linarith
import Stencil.Value

set_option autoImplicit false

namespace Stencil

def Double.rational (d : Double) : ℚ :=
  (if d.negative then -1 else 1) * (d.significand * 2 ^ d.scale)

def Number.rational : Number → ℚ
  | int value => value
  | double value => value.rational

/-- The value `true`, the word `true` in any letters, and the number one. -/
inductive Value.Affirms : Value → Prop where
  | bool : Affirms (.bool true)
  | word {text : Text} (spelled : text.map Char.toLower = ['t', 'r', 'u', 'e']) :
      Affirms (.string text)
  | one {number : Number} (one : number.rational = 1) : Affirms (.number number)

theorem Double.ratio_eq (d : Double) :
    (d.significand * 2 ^ d.scale : ℚ) = d.ratio.1 / d.ratio.2 := by
  have split : d.scale = (d.scale.toNat : ℤ) - (-d.scale).toNat := (Int.toNat_sub_toNat_neg _).symm
  have power : (2 : ℚ) ^ d.scale = 2 ^ d.scale.toNat / 2 ^ (-d.scale).toNat := by
    conv => lhs; rw [split]
    rw [zpow_sub₀ two_ne_zero, zpow_natCast, zpow_natCast]
  simp [ratio, power, mul_div_assoc]

theorem Double.isOne_iff (d : Double) : d.isOne = true ↔ d.rational = 1 := by
  have positive : 0 < d.ratio.2 := Nat.pow_pos (by decide)
  have nonzero : (d.ratio.2 : ℚ) ≠ 0 := Nat.cast_ne_zero.2 positive.ne'
  have magnitude : (d.ratio.1 : ℚ) / d.ratio.2 = 1 ↔ d.ratio.1 = d.ratio.2 := by
    rw [div_eq_one_iff_eq nonzero, Nat.cast_inj]
  rw [rational, ratio_eq]
  cases signed : d.negative with
  | false => simp [isOne, signed, magnitude]
  | true =>
      have nonnegative : (0 : ℚ) ≤ d.ratio.1 / d.ratio.2 :=
        div_nonneg (Nat.cast_nonneg _) (Nat.cast_nonneg _)
      simp only [isOne, signed, Bool.not_true, Bool.false_and, Bool.false_eq_true, ↓reduceIte,
        false_iff]
      linarith

theorem Number.isOne_iff (number : Number) : number.isOne = true ↔ number.rational = 1 := by
  cases number with
  | int value => simp [isOne, rational]
  | double value => exact value.isOne_iff

theorem Value.isTrue_iff (value : Value) : value.isTrue = true ↔ value.Affirms := by
  constructor
  · intro holds
    cases value with
    | bool b =>
        cases b with
        | true => exact .bool
        | false => cases holds
    | string text => exact .word (Text.sameLetters_iff.1 holds)
    | number number => exact .one (number.isOne_iff.1 holds)
    | null | array _ | object _ => cases holds
  · rintro (_ | spelled | one)
    · rfl
    · exact Text.sameLetters_iff.2 spelled
    · exact (Number.isOne_iff _).2 one

end Stencil
