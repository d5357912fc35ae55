/-
**Doubles cut to whole numbers.**

The conversion to a word drops what stands after the point. It shifts the mantissa until the
exponent is 0, and such shifts forget nothing but a fraction.

* `Represents.floor_eq`: the mantissa with its bits is the whole part of what it represents;
* `roundToInt_eq`: so is the shifted mantissa;
* **`toNat_toUInt64`**: a double that fits in a word becomes its whole part.
-/

import IncompleteBeta.Proofs.Binary64.Rounding
import Mathlib.Algebra.Order.Floor.Semiring

namespace IncompleteBeta.Binary64

open Float.Model (UnpackedFloat)
open Float.Model.UnpackedFloat (ExtendedMantissa decreaseExponent roundToInt shiftToExponent)

section Truncation

variable {em : ExtendedMantissa} {v : ℝ} {x : Float}

/-- **Round bit and sticky bit are less than one.** -/
theorem Represents.floor_eq (represents : Represents em v) : ⌊v⌋₊ = em.mantissa := by
  obtain ⟨rest, nonneg, small, _, rfl⟩ := represents
  have mantissa_nonneg : (0 : ℝ) ≤ em.mantissa := Nat.cast_nonneg _
  rw [Nat.floor_eq_iff (by split <;> linarith)]
  constructor <;> split <;> linarith

/-- **A mantissa shifted to the exponent 0** is the whole part of the number. -/
theorem roundToInt_eq (mantissa : Nat) (exponent : ℤ) :
    roundToInt .positive mantissa exponent = ⌊(mantissa : ℝ) * 2 ^ exponent⌋₊ := by
  unfold roundToInt shiftToExponent
  rw [decreaseExponent_eq, sub_zero]
  dsimp only
  obtain ⟨count, count_eq⟩ : ∃ count : ℕ, 0 - (exponent - exponent.toNat) = count :=
    Int.eq_ofNat_of_zero_le (by omega)
  have number : (mantissa : ℝ) * 2 ^ exponent =
      ((mantissa * 2 ^ exponent.toNat : ℕ) : ℝ) / 2 ^ count := by
    rw [← mul_two_pow_mul_zpow mantissa exponent.toNat exponent,
      show exponent - exponent.toNat = -(count : ℤ) by omega, zpow_neg, zpow_natCast,
      div_eq_mul_inv]
  have truncates : Truncates (mantissa * 2 ^ exponent.toNat) .exact
    ((mantissa * 2 ^ exponent.toNat : ℕ) : ℝ) := rfl
  have represents := (represents_ofMantissaAndAccuracy truncates).shiftRight count
  rw [count_eq, Int.toNat_natCast, number, represents.floor_eq]
  rfl

/-- **A double becomes its whole part** if that fits in a word. -/
theorem toNat_toUInt64 (finite : x.isFinite = true) (nonneg : 0 ≤ value x)
    (small : value x < 2 ^ 64) : x.toUInt64.toNat = ⌊value x⌋₊ := by
  have fits : ⌊value x⌋₊ < UInt64.size := by
    rw [Nat.floor_lt nonneg]
    exact_mod_cast small
  have whole : (UnpackedFloat.toInt 0 (UInt64.size - 1) (parts x)).toNat = ⌊value x⌋₊ := by
    rw [isFinite_eq] at finite
    unfold value at nonneg ⊢
    generalize parts x = u at finite nonneg ⊢
    cases u with
    | notANumber => cases finite
    | infinity sign => cases finite
    | zero sign => exact Nat.floor_zero.symm
    | finite sign mantissa exponent positive =>
      cases sign with
      | positive =>
        show (roundToInt .positive mantissa exponent).toNat = _
        rw [roundToInt_eq]
        rfl
      | negative =>
        have positive : (0 : ℝ) < mantissa * 2 ^ exponent := by positivity
        have negative : 0 ≤ -((mantissa : ℝ) * 2 ^ exponent) := nonneg
        linarith
  show (UInt64.ofNatClamp (UnpackedFloat.toInt 0 (UInt64.size - 1) (parts x)).toNat).toNat = _
  rw [whole, UInt64.toNat_ofNatClamp_of_lt fits]

end Truncation

end IncompleteBeta.Binary64
