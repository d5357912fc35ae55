/-
**Distances of doubles.**

No two doubles are so close that their difference is rounded to 0, and none of them is so large that
the quotient of the two vanishes: the spacing of the finer of both divides their difference.

* `extended`, **`le_iff_extended`**: doubles are compared as extended real numbers are, if they are
  numbers;
* `le_transitive`, `le_of_beq`, `not_le_of_lt`: the order of all doubles;
* `abs_value_le`, `rounded_lt_range`: the largest double, and what is not rounded beyond it;
* `Rounds.abs`, `Rounds.pos`, `Rounds.isFinite_iff`: what a magnitude is rounded to, and when that
  is positive or finite;
* `parts_infinity_div`: an infinite distance remains infinite over a finite magnitude;
* **`least_le_abs_sub`**, **`abs_le_mul_abs_sub`**: how close different grid points are, absolutely
  and relative to one of them;
* **`rounded_distance_pos`**, **`rounded_ratio_pos`**: neither the distance of different grid points
  nor its quotient by one of them is rounded to 0.
-/

import IncompleteBeta.Proofs.Binary64.Middle
import Mathlib.Data.EReal.Basic

namespace IncompleteBeta.Binary64

open Float.Model (UnpackedFloat Format)
open Float.Model.UnpackedFloat (Sign)

/-! ### The order of all doubles -/

section Extended

/-- The extended real number of an unpacked double; 0 where there is none. -/
noncomputable def extendedOf : UnpackedFloat → EReal
  | .infinity .positive => ⊤
  | .infinity .negative => ⊥
  | unpacked => (realOf unpacked : ℝ)

/-- **The extended real number of a double**; 0 where there is none. -/
noncomputable def extended (x : Float) : EReal := extendedOf (parts x)

variable {x y z : Float}

theorem extendedOf_of_isFinite {u : UnpackedFloat} (finite : u.isFinite = true) :
    extendedOf u = (realOf u : ℝ) := by
  cases u with
  | notANumber => rfl
  | infinity sign => cases finite
  | zero sign => rfl
  | finite sign mantissa exponent positive => rfl

/-- The number of a finite double is an extended real number. -/
theorem extended_of_isFinite (finite : x.isFinite = true) : extended x = (value x : ℝ) :=
  extendedOf_of_isFinite finite

theorem extendedOf_lt_top {u : UnpackedFloat} (finite : u.isFinite = true) : extendedOf u < ⊤ := by
  rw [extendedOf_of_isFinite finite]
  exact EReal.coe_lt_top _

theorem bot_lt_extendedOf {u : UnpackedFloat} (finite : u.isFinite = true) : ⊥ < extendedOf u := by
  rw [extendedOf_of_isFinite finite]
  exact EReal.bot_lt_coe _

/-- A comparison of unpacked doubles has the outcome of the comparison of their extended real
numbers. -/
def ComparesExtended (u v : UnpackedFloat) : Prop :=
  ∃ ordering, u.compare v = some ordering ∧ ordering.Compares (extendedOf u) (extendedOf v)

/-- Finite doubles are compared by their numbers, and an infinity by its sign. -/
theorem comparesExtended {u v : UnpackedFloat} (canonical : Canonical u)
    (otherCanonical : Canonical v) (number : u.isNaN = false) (otherNumber : v.isNaN = false) :
    ComparesExtended u v := by
  have finite_finite (finite : u.isFinite = true) (otherFinite : v.isFinite = true) :
      ComparesExtended u v := by
    obtain ⟨ordering, outcome, compares⟩ :=
      comparesAs_of_isFinite canonical otherCanonical finite otherFinite
    refine ⟨ordering, outcome, ?_⟩
    rw [extendedOf_of_isFinite finite, extendedOf_of_isFinite otherFinite]
    cases ordering with
    | lt => exact EReal.coe_lt_coe_iff.mpr compares
    | eq => exact congrArg Real.toEReal compares
    | gt => exact EReal.coe_lt_coe_iff.mpr compares
  have finite_infinite (sign : Sign) (finite : u.isFinite = true) (infinite : v = .infinity sign) :
      ComparesExtended u v := by
    subst infinite
    cases sign with
    | positive =>
      refine ⟨.lt, ?_, extendedOf_lt_top finite⟩
      cases u <;> first | rfl | cases finite
    | negative =>
      refine ⟨.gt, ?_, bot_lt_extendedOf finite⟩
      cases u <;> first | rfl | cases finite
  have infinite_finite (sign : Sign) (infinite : u = .infinity sign) (finite : v.isFinite = true) :
      ComparesExtended u v := by
    subst infinite
    cases sign with
    | positive =>
      refine ⟨.gt, ?_, extendedOf_lt_top finite⟩
      cases v <;> first | rfl | cases finite
    | negative =>
      refine ⟨.lt, ?_, bot_lt_extendedOf finite⟩
      cases v <;> first | rfl | cases finite
  cases u with
  | notANumber => cases number
  | infinity sign =>
    cases v with
    | notANumber => cases otherNumber
    | infinity otherSign =>
      cases sign with
      | positive =>
        cases otherSign with
        | positive => exact ⟨.eq, rfl, rfl⟩
        | negative => exact ⟨.gt, rfl, bot_lt_top⟩
      | negative =>
        cases otherSign with
        | positive => exact ⟨.lt, rfl, bot_lt_top⟩
        | negative => exact ⟨.eq, rfl, rfl⟩
    | zero otherSign => exact infinite_finite sign rfl rfl
    | finite otherSign n e otherPositive => exact infinite_finite sign rfl rfl
  | zero sign =>
    cases v with
    | notANumber => cases otherNumber
    | infinity otherSign => exact finite_infinite otherSign rfl rfl
    | zero otherSign => exact finite_finite rfl rfl
    | finite otherSign n e otherPositive => exact finite_finite rfl rfl
  | finite sign m d positive =>
    cases v with
    | notANumber => cases otherNumber
    | infinity otherSign => exact finite_infinite otherSign rfl rfl
    | zero otherSign => exact finite_finite rfl rfl
    | finite otherSign n e otherPositive => exact finite_finite rfl rfl

/-- What is not a number is not above anything. -/
theorem not_le_isNaN (notANumber : y.isNaN = true) : ¬ x ≤ y := by
  rw [le_iff_isLE]
  rw [isNaN_eq] at notANumber
  generalize parts y = v at notANumber ⊢
  cases v with
  | notANumber => cases parts x <;> exact Bool.false_ne_true
  | infinity sign => cases notANumber
  | zero sign => cases notANumber
  | finite sign m e positive => cases notANumber

/-- **Doubles are compared as extended real numbers are**, if they are numbers. -/
theorem le_iff_extended :
    x ≤ y ↔ x.isNaN = false ∧ y.isNaN = false ∧ extended x ≤ extended y := by
  have compares (number : x.isNaN = false) (otherNumber : y.isNaN = false) :
      x ≤ y ↔ extended x ≤ extended y := by
    obtain ⟨ordering, outcome, compares⟩ :=
      comparesExtended (canonical_parts x) (canonical_parts y) number otherNumber
    rw [le_iff_isLE, outcome]
    show ordering.isLE = true ↔ _
    rw [← Ordering.ne_gt_iff_isLE]
    exact compares.ne_gt
  constructor
  · intro le
    have number : x.isNaN = false := Bool.eq_false_iff.mpr fun nan => not_le_of_isNaN nan le
    have otherNumber : y.isNaN = false := Bool.eq_false_iff.mpr fun nan => not_le_isNaN nan le
    exact ⟨number, otherNumber, (compares number otherNumber).mp le⟩
  · rintro ⟨number, otherNumber, le⟩
    exact (compares number otherNumber).mpr le

theorem lt_iff_extended (number : x.isNaN = false) (otherNumber : y.isNaN = false) :
    x < y ↔ extended x < extended y := by
  obtain ⟨ordering, outcome, compares⟩ :=
    comparesExtended (canonical_parts x) (canonical_parts y) number otherNumber
  rw [lt_iff_eq_lt, outcome, Option.some_inj]
  exact compares.eq_lt

/-- **The order of all doubles is transitive.** -/
theorem le_transitive (first : x ≤ y) (second : y ≤ z) : x ≤ z := by
  obtain ⟨number, _, le⟩ := le_iff_extended.mp first
  obtain ⟨_, otherNumber, otherLe⟩ := le_iff_extended.mp second
  exact le_iff_extended.mpr ⟨number, otherNumber, le.trans otherLe⟩

/-- Equal doubles are at most each other. -/
theorem le_of_beq (same : (x == y) = true) : x ≤ y ∧ y ≤ x := by
  have le := le_iff_lt_or_beq.mpr (.inr same)
  obtain ⟨number, otherNumber, _⟩ := le_iff_extended.mp le
  obtain ⟨ordering, outcome, compares⟩ :=
    comparesExtended (canonical_parts x) (canonical_parts y) number otherNumber
  rw [beq_iff_eq_eq, outcome, Option.some_inj] at same
  have equal : extended x = extended y := compares.eq_eq.mp same
  exact ⟨le, le_iff_extended.mpr ⟨otherNumber, number, equal.ge⟩⟩

theorem not_le_of_lt (less : x < y) : ¬ y ≤ x := by
  intro le
  obtain ⟨number, otherNumber, otherLe⟩ := le_iff_extended.mp le
  exact absurd ((lt_iff_extended otherNumber number).mp less) (not_lt.mpr otherLe)

end Extended

/-! ### Magnitudes -/

section Magnitude

variable {x : Float} {v : ℝ}

theorem abs_realOf_le {u : UnpackedFloat} (canonical : Canonical u) :
    |realOf u| ≤ 2 ^ (1024 : ℤ) - 2 ^ (971 : ℤ) := by
  have powers : (2 : ℝ) ^ (1024 : ℤ) - 2 ^ (971 : ℤ) = (2 ^ 53 - 1) * 2 ^ (971 : ℤ) := by
    rw [show (1024 : ℤ) = 53 + 971 by norm_num, zpow_add₀ (by norm_num), sub_one_mul]
    norm_num
  rw [powers]
  have nonneg : (0 : ℝ) ≤ (2 ^ 53 - 1) * 2 ^ (971 : ℤ) := mul_nonneg (by norm_num) (by positivity)
  cases canonical with
  | notANumber => exact abs_zero.trans_le nonneg
  | infinity sign => exact abs_zero.trans_le nonneg
  | zero sign => exact abs_zero.trans_le nonneg
  | finite sign mantissa exponent positive digits full least most =>
    have cast : (mantissa : ℝ) ≤ 2 ^ 53 - 1 := by
      have most_digits : mantissa + 1 ≤ 2 ^ 53 := digits
      have cast : (mantissa : ℝ) + 1 ≤ 2 ^ 53 := by exact_mod_cast most_digits
      linarith
    have power : (2 : ℝ) ^ exponent ≤ 2 ^ (971 : ℤ) := zpow_le_zpow_right₀ (by norm_num) most
    have size : (0 : ℝ) ≤ mantissa * 2 ^ exponent := by positivity
    calc |signed sign (mantissa * 2 ^ exponent)| = mantissa * 2 ^ exponent := by
          rw [abs_signed, abs_of_nonneg size]
      _ ≤ (2 ^ 53 - 1) * 2 ^ (971 : ℤ) :=
        mul_le_mul cast power (by positivity) (by norm_num)

/-- No double is larger than the largest one. -/
theorem abs_value_le (x : Float) : |value x| ≤ 2 ^ (1024 : ℤ) - 2 ^ (971 : ℤ) :=
  abs_realOf_le (canonical_parts x)

/-- **What is less than half a spacing above the largest double is rounded to one.** -/
theorem rounded_lt_range (less : v < 2 ^ (1024 : ℤ) - 2 ^ (970 : ℤ)) :
    rounded v < 2 ^ (1024 : ℤ) := by
  refine lt_of_not_ge fun overflow => absurd ?_ (not_le.mpr less)
  exact (zpow_le_rounded_iff (by norm_num)).mp overflow

theorem rounded_abs (v : ℝ) : rounded |v| = |rounded v| := by
  rcases le_total 0 v with nonneg | nonpos
  · rw [abs_of_nonneg nonneg, abs_of_nonneg (rounded_nonneg nonneg)]
  · have opposite := rounded_nonneg (neg_nonneg.mpr nonpos)
    rw [rounded_neg] at opposite
    rw [abs_of_nonpos nonpos, rounded_neg, abs_of_nonpos (neg_nonneg.mp opposite)]

/-- A magnitude is rounded with the number. -/
theorem Rounds.abs (rounds : Rounds x v) : Rounds x.abs |v| := by
  refine ⟨fun range => ?_, fun overflow => ?_⟩
  · rw [rounded_abs, abs_abs] at range
    obtain ⟨finite, value_eq⟩ := rounds.finite range
    exact ⟨by rw [isFinite_abs, finite], by rw [value_abs, value_eq, rounded_abs]⟩
  · rw [rounded_abs, abs_abs] at overflow
    rw [parts_abs, rounds.infinite overflow, if_neg (not_lt.mpr (abs_nonneg v))]
    rfl

/-- Positive infinity is positive. -/
theorem pos_of_infinity (infinite : parts x = .infinity .positive) : 0.0 < x := by
  have number : x.isNaN = false := by
    rw [isNaN_eq, infinite]
    rfl
  rw [lt_iff_extended rfl number, extended_of_isFinite isFinite_zero, value_zero, extended,
    infinite]
  exact EReal.coe_lt_top 0

/-- What is rounded to a positive number is positive. -/
theorem Rounds.pos (rounds : Rounds x v) (positive : 0 < rounded v) : 0.0 < x := by
  rcases lt_or_ge |rounded v| (2 ^ (1024 : ℤ)) with range | overflow
  · obtain ⟨finite, value_eq⟩ := rounds.finite range
    rw [lt_iff isFinite_zero finite, value_zero, value_eq]
    exact positive
  · have nonneg : ¬ v < 0 := by
      intro negative
      have opposite := rounded_nonneg (neg_nonneg.mpr negative.le)
      rw [rounded_neg] at opposite
      linarith
    have infinite := rounds.infinite overflow
    rw [if_neg nonneg] at infinite
    exact pos_of_infinity infinite

/-- What a number that is not negative is rounded to is finite if it is in range. -/
theorem Rounds.isFinite_iff (rounds : Rounds x v) (nonneg : 0 ≤ v) :
    x.isFinite = true ↔ rounded v < 2 ^ (1024 : ℤ) := by
  have magnitude : |rounded v| = rounded v := abs_of_nonneg (rounded_nonneg nonneg)
  constructor
  · intro finite
    by_contra overflow
    rw [isFinite_eq, rounds.infinite (by rwa [magnitude, ← not_lt])] at finite
    cases finite
  · intro range
    exact (rounds.finite (by rwa [magnitude])).1

/-- Infinity remains over a finite magnitude. -/
theorem parts_infinity_div (infinite : parts x = .infinity .positive) {y : Float}
    (finite : y.isFinite = true) : parts (x / y.abs) = .infinity .positive := by
  have quotient : parts (x / y.abs) = UnpackedFloat.unpack .binary64 (UnpackedFloat.pack .binary64
      (UnpackedFloat.div .binary64 (parts x) (parts y.abs))) := rfl
  rw [quotient, infinite, parts_abs]
  rw [isFinite_eq] at finite
  generalize parts y = v at finite ⊢
  cases v with
  | notANumber => cases finite
  | infinity sign => cases finite
  | zero sign => exact unpack_pack (.infinity .positive)
  | finite sign mantissa exponent positive => exact unpack_pack (.infinity .positive)

end Magnitude

/-! ### Grid points -/

section Grid

variable {v w : ℝ}

/-- Multiples of one spacing are at least this far apart. -/
theorem zpow_le_abs_sub {m n d e : ℤ} (le : d ≤ e) (differ : (m : ℝ) * 2 ^ d ≠ n * 2 ^ e) :
    2 ^ d ≤ |(m : ℝ) * 2 ^ d - n * 2 ^ e| := by
  obtain ⟨k, rfl⟩ := Int.le.dest le
  have scale : (0 : ℝ) < 2 ^ d := by positivity
  have difference : (m : ℝ) * 2 ^ d - n * 2 ^ (d + k : ℤ) = ((m - n * 2 ^ k : ℤ) : ℝ) * 2 ^ d := by
    rw [zpow_add₀ (by norm_num), zpow_natCast]
    push_cast
    ring
  have nonzero : m - n * 2 ^ k ≠ 0 := by
    intro zero
    rw [zero, Int.cast_zero, zero_mul] at difference
    exact differ (sub_eq_zero.mp difference)
  have whole : (1 : ℝ) ≤ |((m - n * 2 ^ k : ℤ) : ℝ)| := by
    exact_mod_cast Int.one_le_abs nonzero
  rw [difference, abs_mul, abs_of_pos scale]
  exact le_mul_of_one_le_left scale.le whole

/-- A grid point is at most 2 to the 53 times what its own spacing is below. -/
theorem abs_le_of_digits {m d : ℤ} {distance : ℝ} (digits : |m| ≤ 2 ^ 53)
    (apart : 2 ^ d ≤ distance) : |(m : ℝ) * 2 ^ d| ≤ 2 ^ 53 * distance := by
  have scale : (0 : ℝ) < 2 ^ d := by positivity
  have cast : |(m : ℝ)| ≤ 2 ^ 53 := by exact_mod_cast digits
  calc |(m : ℝ) * 2 ^ d| = |(m : ℝ)| * 2 ^ d := by rw [abs_mul, abs_of_pos scale]
    _ ≤ 2 ^ 53 * distance := mul_le_mul cast apart scale.le (by positivity)

variable (grid : OnGrid v) (otherGrid : OnGrid w) (differ : v ≠ w)
include grid otherGrid differ

/-- **Different grid points are at least the least spacing apart.** -/
theorem least_le_abs_sub : 2 ^ (-1074 : ℤ) ≤ |v - w| := by
  obtain ⟨m, d, rfl, digits, least⟩ := grid
  obtain ⟨n, e, rfl, otherDigits, otherLeast⟩ := otherGrid
  rcases le_total d e with finer | coarser
  · exact (zpow_le_zpow_right₀ (by norm_num) least).trans (zpow_le_abs_sub finer differ)
  · rw [abs_sub_comm]
    exact (zpow_le_zpow_right₀ (by norm_num) otherLeast).trans (zpow_le_abs_sub coarser differ.symm)

/-- **A grid point is not much larger than its distance from another.** -/
theorem abs_le_mul_abs_sub : |w| ≤ 2 ^ 54 * |v - w| := by
  have nonneg := abs_nonneg (v - w)
  have triangle := abs_sub_abs_le_abs_sub w v
  rw [abs_sub_comm] at triangle
  obtain ⟨m, d, rfl, digits, least⟩ := grid
  obtain ⟨n, e, rfl, otherDigits, otherLeast⟩ := otherGrid
  rcases le_total d e with finer | coarser
  · have size := abs_le_of_digits digits (zpow_le_abs_sub finer differ)
    calc |(n : ℝ) * 2 ^ e| ≤ |(m : ℝ) * 2 ^ d| + |(m : ℝ) * 2 ^ d - n * 2 ^ e| := by
          rwa [sub_le_iff_le_add'] at triangle
      _ ≤ 2 ^ 53 * |(m : ℝ) * 2 ^ d - n * 2 ^ e| + |(m : ℝ) * 2 ^ d - n * 2 ^ e| :=
        add_le_add_left size _
      _ ≤ 2 ^ 54 * |(m : ℝ) * 2 ^ d - n * 2 ^ e| := by
        rw [← add_one_mul]
        exact mul_le_mul_of_nonneg_right (by norm_num) nonneg
  · have apart := zpow_le_abs_sub coarser differ.symm
    rw [abs_sub_comm] at apart
    exact (abs_le_of_digits otherDigits apart).trans
      (mul_le_mul_of_nonneg_right (by norm_num) nonneg)

/-- **The distance of different grid points is not rounded to 0**, and not to much less either. -/
theorem rounded_distance_pos : 0 < rounded |v - w| ∧ |v - w| ≤ 2 * rounded |v - w| := by
  have least := least_le_abs_sub grid otherGrid differ
  have positive : 0 < rounded |v - w| :=
    lt_of_lt_of_le (by positivity) (le_rounded_of_onGrid (onGrid_zpow (le_refl _)) least)
  exact ⟨positive, (rounded_eq_zero_or_le (abs_nonneg _)).resolve_left positive.ne'⟩

/-- **Nor is its quotient by the magnitude of one of them.** -/
theorem rounded_ratio_pos (nonzero : w ≠ 0) : 0 < rounded (rounded |v - w| / |w|) := by
  have size : 0 < |w| := abs_pos.mpr nonzero
  have relative := abs_le_mul_abs_sub grid otherGrid differ
  have half := (rounded_distance_pos grid otherGrid differ).2
  have ratio : (2 : ℝ) ^ (-55 : ℤ) ≤ rounded |v - w| / |w| := by
    rw [le_div_iff₀ size, zpow_neg, inv_mul_le_iff₀ (by positivity)]
    norm_num at relative ⊢
    linarith
  exact lt_of_lt_of_le (by positivity) (le_rounded_of_onGrid (onGrid_zpow (by norm_num)) ratio)

end Grid

end IncompleteBeta.Binary64
