/-
**Doubles that do not vanish.**

A divisor is no zero where its exact number is rounded away from zero, and where it overflowed: no
infinity is zero.

* `nonzero_of_pos`, `nonzero_of_one_le`, `nonzero_of_infinity`: what is no zero;
* **`nonzero_mul`**: a product of two numbers from 1 on, infinite ones included;
* `one_le_of_rounds`: what is rounded to a number from 1 on;
* `complement_pos`: the complement of a number below 1.
-/

import IncompleteBeta.Proofs.Binary64.Distance
import IncompleteBeta.Proofs.Binary64.Symmetry

namespace IncompleteBeta.Binary64

open Float.Model (UnpackedFloat)
open Float.Model.UnpackedFloat (Sign pack unpack)

variable {x y : Float} {v : ℝ}

theorem nonzero_of_pos (positive : 0.0 < x) : (x == 0.0) = false :=
  Bool.eq_false_iff.mpr fun zero => not_le_of_lt positive (le_of_beq zero).1

theorem nonzero_of_one_le (le : 1.0 ≤ x) : (x == 0.0) = false :=
  Bool.eq_false_iff.mpr fun zero =>
    absurd (le_transitive le (le_of_beq zero).1) (by decide +kernel)

theorem nonzero_of_infinity {sign : Sign} (infinite : parts x = .infinity sign) :
    (x == 0.0) = false := by
  rw [Bool.eq_false_iff, Ne, beq_iff_eq_eq, infinite, parts_zero]
  cases sign <;> decide

/-- An infinity remains over a number that is not zero. -/
theorem infinity_mul {sign : Sign} (infinite : parts x = .infinity sign)
    (number : y.isNaN = false) (nonzero : (y == 0.0) = false) :
    ∃ otherSign, parts (x * y) = .infinity otherSign := by
  have product : parts (x * y) = unpack .binary64
    (pack .binary64 (UnpackedFloat.mul .binary64 (parts x) (parts y))) := rfl
  rw [product, infinite]
  rw [Bool.eq_false_iff, Ne, beq_iff_eq_eq, parts_zero] at nonzero
  rw [isNaN_eq] at number
  generalize parts y = u at number nonzero
  cases u with
  | notANumber => cases number
  | infinity otherSign => exact ⟨_, unpack_pack (.infinity (sign * otherSign))⟩
  | zero otherSign => exact absurd rfl nonzero
  | finite otherSign m e positive => exact ⟨_, unpack_pack (.infinity (sign * otherSign))⟩

/-- What is at least 1 before it is rounded is so afterwards, or infinite. -/
theorem one_le_of_rounds (rounds : Rounds x v) (le : 1 ≤ v) : 1.0 ≤ x := by
  have above : 1 ≤ rounded v := le_rounded_of_onGrid onGrid_one le
  rcases lt_or_ge |rounded v| (2 ^ (1024 : ℤ)) with range | overflow
  · obtain ⟨finite, value_eq⟩ := rounds.finite range
    rw [le_iff isFinite_one finite, value_one, value_eq]
    exact above
  · have infinite := rounds.infinite overflow
    rw [if_neg (by linarith)] at infinite
    have number : x.isNaN = false := by
      rw [isNaN_eq, infinite]
      rfl
    refine le_iff_extended.mpr ⟨rfl, number, ?_⟩
    rw [extended_of_isFinite isFinite_one, extended, infinite]
    exact le_top

/-- **A product of numbers from 1 on does not vanish**, whichever of them are infinite. -/
theorem nonzero_mul (le : 1.0 ≤ x) (otherLe : 1.0 ≤ y) : (x * y == 0.0) = false := by
  have number := (le_iff_extended.mp le).2.1
  have otherNumber := (le_iff_extended.mp otherLe).2.1
  by_cases finite : x.isFinite = true
  · by_cases otherFinite : y.isFinite = true
    · rw [le_iff isFinite_one finite, value_one] at le
      rw [le_iff isFinite_one otherFinite, value_one] at otherLe
      exact nonzero_of_one_le
        (one_le_of_rounds (rounds_mul finite otherFinite)
          (one_le_mul_of_one_le_of_one_le le otherLe))
    · obtain ⟨sign, infinite⟩ := exists_infinity otherNumber otherFinite
      obtain ⟨otherSign, product⟩ := infinity_mul infinite number (nonzero_of_one_le le)
      rw [product_comm]
      exact nonzero_of_infinity product
  · obtain ⟨sign, infinite⟩ := exists_infinity number finite
    obtain ⟨otherSign, product⟩ := infinity_mul infinite otherNumber (nonzero_of_one_le otherLe)
    exact nonzero_of_infinity product

/-- **The complement of a number below 1 is positive**: it is not rounded to 0. -/
theorem complement_pos (finite : x.isFinite = true) (below : x < 1.0) : 0.0 < 1.0 - x := by
  rw [lt_iff finite isFinite_one, value_one] at below
  have rounds := rounds_sub isFinite_one finite
  rw [value_one] at rounds
  refine rounds.pos ?_
  have apart := (rounded_distance_pos onGrid_one (onGrid_value x) below.ne').1
  rwa [abs_of_pos (sub_pos.mpr below)] at apart

end IncompleteBeta.Binary64
