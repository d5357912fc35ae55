/-
**Overflow.**

Sums overflow when both terms are large and of one sign, and an infinity stays what it is beside
finite doubles.

* **`Rounds.finite_of_small`**, `isFinite_add_of_small`: what is small beside the spacing of the
  largest doubles does not make a sum overflow;
* **`isFinite_sub_of_nonneg`**: neither do terms of opposite signs;
* `eq_infinity_of_finite`, `infinity_add`, `infinity_sub`, `infinity_div`: infinity stays;
* `Rounds.value_eq`, `Rounds.nonneg_or_infinity`, `positive_or_infinity`: where no other infinity
  is;
* **`NumberOrInfinity`**, `numberOrInfinity_leading`: results that overflow upwards only, and what
  may be added to them.
-/

import IncompleteBeta.Proofs.Binary64.Nonzero
import IncompleteBeta.Proofs.Binary64.Symmetry

namespace IncompleteBeta.Binary64

open Float.Model (UnpackedFloat)
open Float.Model.UnpackedFloat (pack unpack)

/-! ### Sums that do not overflow -/

section Sums

variable {x y z : Float} {w : ℝ}

/-- **What is small beside the spacing of the largest doubles** does not make a sum overflow. -/
theorem Rounds.finite_of_small (rounds : Rounds z (value x + w)) (small : |w| ≤ 2 ^ (969 : ℤ)) :
    z.isFinite = true ∧ value z = rounded (value x + w) := by
  refine rounds.finite ?_
  rw [← rounded_abs]
  refine rounded_lt_range ?_
  have largest := abs_value_le x
  have double : (2 : ℝ) ^ (971 : ℤ) = 2 ^ (969 : ℤ) * 4 := by
    rw [show (971 : ℤ) = 969 + 2 by norm_num, zpow_add₀ (by norm_num)]
    norm_num
  have half : (2 : ℝ) ^ (970 : ℤ) = 2 ^ (969 : ℤ) * 2 := zpow_add_one₀ (by norm_num) 969
  have scale : (0 : ℝ) < 2 ^ (969 : ℤ) := by positivity
  rw [double] at largest
  rw [half]
  generalize (2 : ℝ) ^ (1024 : ℤ) = range at largest ⊢
  generalize (2 : ℝ) ^ (969 : ℤ) = unit at small largest scale ⊢
  calc |value x + w| ≤ |value x| + |w| := abs_add_le _ _
    _ < range - unit * 2 := by linarith

theorem isFinite_add_of_small (finite : x.isFinite = true) (otherFinite : y.isFinite = true)
    (small : |value y| ≤ 2 ^ (969 : ℤ)) :
    (x + y).isFinite = true ∧ value (x + y) = rounded (value x + value y) :=
  (rounds_add finite otherFinite).finite_of_small small

theorem isFinite_complement (finite : x.isFinite = true) : (1.0 - x).isFinite = true := by
  have rounds : Rounds (1.0 - x) (value (-x) + 1) := by
    have difference := rounds_sub isFinite_one finite
    rwa [value_one, sub_eq_neg_add, ← value_neg] at difference
  refine (rounds.finite_of_small ?_).1
  rw [abs_one]
  exact one_le_zpow₀ (by norm_num) (by norm_num)

/-- **The difference of two numbers of one sign** does not overflow. -/
theorem isFinite_sub_of_nonneg (finite : x.isFinite = true) (otherFinite : y.isFinite = true)
    (nonneg : 0 ≤ value x) (otherNonneg : 0 ≤ value y) :
    (x - y).isFinite = true ∧ value (x - y) = rounded (value x - value y) := by
  refine (rounds_sub finite otherFinite).finite ?_
  rw [← rounded_abs]
  have largest := abs_value_le x
  have otherLargest := abs_value_le y
  rw [abs_of_nonneg nonneg] at largest
  rw [abs_of_nonneg otherNonneg] at otherLargest
  have scale : (2 : ℝ) ^ (970 : ℤ) < 2 ^ (971 : ℤ) :=
    zpow_lt_zpow_right₀ (by norm_num) (by norm_num)
  refine rounded_lt_range ?_
  generalize (2 : ℝ) ^ (1024 : ℤ) = range at largest otherLargest ⊢
  generalize (2 : ℝ) ^ (971 : ℤ) = unit at largest otherLargest scale
  exact abs_lt.mpr ⟨by linarith, by linarith⟩

end Sums

/-! ### Infinity -/

section Infinity

variable {x y : Float}

theorem parts_infinity : parts infinity = .infinity .positive := rfl

theorem eq_infinity_of_parts (infinite : parts x = .infinity .positive) : x = infinity :=
  eq_of_parts_eq (infinite.trans parts_infinity.symm)

/-- **Infinity under an operation** that leaves it, whatever finite double stands on the other
side. -/
theorem eq_infinity_of_finite (operation : UnpackedFloat → UnpackedFloat)
    (outcome : parts y = unpack .binary64 (pack .binary64 (operation (parts x))))
    (finite : x.isFinite = true) (zero : ∀ sign, operation (.zero sign) = .infinity .positive)
    (nonzero : ∀ sign mantissa exponent positive,
      operation (.finite sign mantissa exponent positive) = .infinity .positive) :
    y = infinity := by
  refine eq_infinity_of_parts ?_
  rw [outcome]
  rw [isFinite_eq] at finite
  generalize parts x = v at finite ⊢
  cases v with
  | notANumber => cases finite
  | infinity sign => cases finite
  | zero sign =>
    rw [zero]
    exact unpack_pack (.infinity .positive)
  | finite sign mantissa exponent positive =>
    rw [nonzero]
    exact unpack_pack (.infinity .positive)

theorem infinity_add (finite : x.isFinite = true) : infinity + x = infinity :=
  eq_infinity_of_finite (UnpackedFloat.add .binary64 (.infinity .positive)) rfl finite
    (fun _ => rfl) fun _ _ _ _ => rfl

theorem infinity_sub (finite : x.isFinite = true) : infinity - x = infinity :=
  eq_infinity_of_finite (UnpackedFloat.sub .binary64 (.infinity .positive)) rfl finite
    (fun _ => rfl) fun _ _ _ _ => rfl

/-- An infinity that is divided by a positive finite double. -/
theorem infinity_div (finite : x.isFinite = true) (positive : 0 < value x) :
    infinity / x = infinity := by
  refine eq_infinity_of_parts ?_
  have quotient : parts (infinity / x) = unpack .binary64
    (pack .binary64 (UnpackedFloat.div .binary64 (parts infinity) (parts x))) := rfl
  rw [quotient, parts_infinity]
  rw [isFinite_eq] at finite
  unfold value at positive
  generalize parts x = v at finite positive ⊢
  cases v with
  | notANumber => cases finite
  | infinity sign => cases finite
  | zero sign => exact absurd positive (lt_irrefl 0)
  | finite sign mantissa exponent mantissa_pos =>
    cases sign with
    | positive => exact unpack_pack (.infinity .positive)
    | negative =>
      have negated : 0 < -((mantissa : ℝ) * 2 ^ exponent) := positive
      have nonneg : (0 : ℝ) ≤ mantissa * 2 ^ exponent := by positivity
      linarith

/-- A double that is rounded and finite has the rounded number. -/
theorem Rounds.value_eq {v : ℝ} (rounds : Rounds x v) (finite : x.isFinite = true) :
    value x = rounded v := by
  rcases lt_or_ge |rounded v| (2 ^ (1024 : ℤ)) with range | overflow
  · exact (rounds.finite range).2
  · rw [isFinite_eq, rounds.infinite overflow] at finite
    cases finite

/-- What is not negative is rounded to such a double, or to infinity. -/
theorem Rounds.nonneg_or_infinity {v : ℝ} (rounds : Rounds x v) (nonneg : 0 ≤ v) :
    (x.isFinite = true ∧ 0 ≤ value x) ∨ x = infinity := by
  rcases lt_or_ge |rounded v| (2 ^ (1024 : ℤ)) with range | overflow
  · obtain ⟨finite, value_eq⟩ := rounds.finite range
    exact .inl ⟨finite, by rw [value_eq]; exact rounded_nonneg nonneg⟩
  · refine .inr (eq_infinity_of_parts ?_)
    rw [rounds.infinite overflow, if_neg (not_lt.mpr nonneg)]

/-- Numbers that are not at most 0 are positive and finite, or infinity. -/
theorem positive_or_infinity (number : x.isNaN = false) (above : ¬x ≤ 0.0) :
    (x.isFinite = true ∧ 0 < value x) ∨ x = infinity := by
  by_cases finite : x.isFinite = true
  · rw [le_iff finite isFinite_zero, value_zero, not_le] at above
    exact .inl ⟨finite, above⟩
  · obtain ⟨sign, parts_eq⟩ := exists_infinity number finite
    cases sign with
    | positive => exact .inr (eq_infinity_of_parts parts_eq)
    | negative =>
      rw [le_iff_isLE, parts_eq, parts_zero] at above
      exact absurd rfl above

/-- **A result that does not overflow downwards.** -/
def NumberOrInfinity (x : Float) : Prop := x.isFinite = true ∨ x = infinity

/-- Something small is added to a result that does not overflow downwards. -/
theorem NumberOrInfinity.add (number : NumberOrInfinity x) (finite : y.isFinite = true)
    (small : |value y| ≤ 2 ^ (969 : ℤ)) : NumberOrInfinity (x + y) := by
  rcases number with otherFinite | rfl
  · exact .inl (isFinite_add_of_small otherFinite finite small).1
  · exact .inr (infinity_add finite)

/-- Something small is taken from a result that does not overflow downwards. -/
theorem NumberOrInfinity.sub (number : NumberOrInfinity x) (finite : y.isFinite = true)
    (small : |value y| ≤ 2 ^ (969 : ℤ)) : NumberOrInfinity (x - y) := by
  rcases number with otherFinite | rfl
  · have rounds := rounds_sub otherFinite finite
    rw [sub_eq_add_neg] at rounds
    exact .inl (rounds.finite_of_small (by rwa [abs_neg])).1
  · exact .inr (infinity_sub finite)

theorem NumberOrInfinity.isNaN (number : NumberOrInfinity x) : x.isNaN = false := by
  rcases number with finite | rfl
  · exact isNaN_of_isFinite finite
  · rfl

/-- **Leading terms overflow upwards only**: a product of two factors from 0 on is added before
anything is subtracted. -/
theorem numberOrInfinity_leading {c w l t : Float} (finite_c : c.isFinite = true)
    (finite_w : w.isFinite = true) (finite_l : l.isFinite = true) (finite_t : t.isFinite = true)
    (nonneg_c : 0 ≤ value c) (nonneg_w : 0 ≤ value w) (nonneg_l : 0 ≤ value l)
    (nonneg_t : 0 ≤ value t) : NumberOrInfinity (c + w * l - t) := by
  rcases (rounds_mul finite_w finite_l).nonneg_or_infinity (mul_nonneg nonneg_w nonneg_l) with
    ⟨finite, nonneg⟩ | infinite
  · rcases (rounds_add finite_c finite).nonneg_or_infinity (add_nonneg nonneg_c nonneg) with
      ⟨otherFinite, otherNonneg⟩ | infinite
    · exact .inl (isFinite_sub_of_nonneg otherFinite finite_t otherNonneg nonneg_t).1
    · rw [infinite]
      exact .inr (infinity_sub finite_t)
  · rw [infinite, sum_comm, infinity_add finite_c]
    exact .inr (infinity_sub finite_t)

end Infinity

end IncompleteBeta.Binary64
