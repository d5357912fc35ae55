/-
**Exchanged operands, opposite signs and complements.**

* `sum_comm`, `product_comm`: sums and products of any two doubles do not depend on the order of the
  operands, nor do those that are not finite or not numbers;
* `neg_neg_eq`, **`neg_difference`**: the opposite of the opposite is the double itself, and
  exchanged differences are opposite where they are not 0;
* **`complement_complement`**: from one half on, the complement of the complement is the number
  itself, because neither subtraction rounds.
-/

import IncompleteBeta.Proofs.Binary64.Fields
import IncompleteBeta.Proofs.Binary64.UnitInterval

namespace IncompleteBeta.Binary64

open Float.Model (UnpackedFloat Format)
open Float.Model.UnpackedFloat (Sign)

/-! ### Exchanged operands -/

section Exchange

theorem sign_mul_comm (sign otherSign : Sign) : sign * otherSign = otherSign * sign := by
  cases sign <;> cases otherSign <;> rfl

theorem add_unpacked_comm (u v : UnpackedFloat) :
    u.add Format.binary64 v = v.add Format.binary64 u := by
  cases u with
  | notANumber => cases v <;> rfl
  | infinity sign =>
    cases v with
    | notANumber => rfl
    | infinity otherSign => cases sign <;> cases otherSign <;> rfl
    | zero otherSign => rfl
    | finite otherSign n e otherPositive => rfl
  | zero sign =>
    cases v with
    | notANumber => rfl
    | infinity otherSign => rfl
    | zero otherSign => cases sign <;> cases otherSign <;> rfl
    | finite otherSign n e otherPositive => rfl
  | finite sign m d positive =>
    cases v with
    | notANumber => rfl
    | infinity otherSign => rfl
    | zero otherSign => rfl
    | finite otherSign n e otherPositive =>
      simp only [UnpackedFloat.add]
      rw [Int.min_comm, Int.add_comm]

theorem mul_unpacked_comm (u v : UnpackedFloat) :
    u.mul Format.binary64 v = v.mul Format.binary64 u := by
  cases u with
  | notANumber => cases v <;> rfl
  | infinity sign =>
    cases v with
    | notANumber => rfl
    | infinity otherSign => exact congrArg UnpackedFloat.infinity (sign_mul_comm sign otherSign)
    | zero otherSign => rfl
    | finite otherSign n e otherPositive =>
      exact congrArg UnpackedFloat.infinity (sign_mul_comm sign otherSign)
  | zero sign =>
    cases v with
    | notANumber => rfl
    | infinity otherSign => rfl
    | zero otherSign => exact congrArg UnpackedFloat.zero (sign_mul_comm sign otherSign)
    | finite otherSign n e otherPositive =>
      exact congrArg UnpackedFloat.zero (sign_mul_comm sign otherSign)
  | finite sign m d positive =>
    cases v with
    | notANumber => rfl
    | infinity otherSign => exact congrArg UnpackedFloat.infinity (sign_mul_comm sign otherSign)
    | zero otherSign => exact congrArg UnpackedFloat.zero (sign_mul_comm sign otherSign)
    | finite otherSign n e otherPositive =>
      simp only [UnpackedFloat.mul]
      rw [sign_mul_comm, Nat.mul_comm, Int.add_comm]

variable (x y : Float)

/-- **Sums of doubles do not depend on the order of the terms.** -/
theorem sum_comm : x + y = y + x := by
  show Float.ofModel (.pack ((parts x).add Format.binary64 (parts y))) =
    .ofModel (.pack ((parts y).add Format.binary64 (parts x)))
  rw [add_unpacked_comm]

/-- **Products of doubles do not depend on the order of the factors.** -/
theorem product_comm : x * y = y * x := by
  show Float.ofModel (.pack ((parts x).mul Format.binary64 (parts y))) =
    .ofModel (.pack ((parts y).mul Format.binary64 (parts x)))
  rw [mul_unpacked_comm]

end Exchange

/-! ### Opposite signs -/

section Opposites

variable {x y : Float}

theorem neg_neg_unpacked (u : UnpackedFloat) : u.neg.neg = u := by
  cases u with
  | notANumber => rfl
  | infinity sign => cases sign <;> rfl
  | zero sign => cases sign <;> rfl
  | finite sign m d positive => cases sign <;> rfl

theorem neg_neg_eq (x : Float) : - -x = x :=
  eq_of_parts_eq (by rw [parts_neg, parts_neg, neg_neg_unpacked])

/-- Exchanged differences with an infinity are opposite. -/
theorem sub_unpacked_exchange {u v : UnpackedFloat}
    (infinite : ¬(u.isFinite = true ∧ v.isFinite = true)) : v.sub Format.binary64 u =
      (u.sub Format.binary64 v).neg ∧ Canonical (u.sub Format.binary64 v) := by
  cases u with
  | notANumber => cases v <;> exact ⟨rfl, .notANumber⟩
  | infinity sign =>
    cases v with
    | notANumber => exact ⟨rfl, .notANumber⟩
    | infinity otherSign =>
      cases sign <;> cases otherSign <;> first
        | exact ⟨rfl, .notANumber⟩
        | exact ⟨rfl, .infinity _⟩
    | zero otherSign => exact ⟨rfl, .infinity sign⟩
    | finite otherSign n e otherPositive => exact ⟨rfl, .infinity sign⟩
  | zero sign =>
    cases v with
    | notANumber => exact ⟨rfl, .notANumber⟩
    | infinity otherSign =>
      exact ⟨(neg_neg_unpacked (.infinity otherSign)).symm, .infinity (-otherSign)⟩
    | zero otherSign => exact absurd ⟨rfl, rfl⟩ infinite
    | finite otherSign n e otherPositive => exact absurd ⟨rfl, rfl⟩ infinite
  | finite sign m d positive =>
    cases v with
    | notANumber => exact ⟨rfl, .notANumber⟩
    | infinity otherSign =>
      exact ⟨(neg_neg_unpacked (.infinity otherSign)).symm, .infinity (-otherSign)⟩
    | zero otherSign => exact absurd ⟨rfl, rfl⟩ infinite
    | finite otherSign n e otherPositive => exact absurd ⟨rfl, rfl⟩ infinite

/-- **Exchanged differences are opposite**, bit for bit, where they are not 0. The difference of
equal doubles is the positive zero either way. -/
theorem neg_difference (nonzero : (x - y == 0.0) = false) : y - x = -(x - y) := by
  by_cases finite : x.isFinite = true ∧ y.isFinite = true
  · have rounds := rounds_sub finite.1 finite.2
    have opposite := rounds.neg
    rw [neg_sub] at opposite
    refine (rounds_sub finite.2 finite.1).unique opposite ?_
    intro vanishes
    rw [← neg_sub, rounded_neg, neg_eq_zero] at vanishes
    obtain ⟨otherFinite, value_eq⟩ := rounds.finite (by rw [vanishes, abs_zero]; positivity)
    rw [vanishes, ← value_zero, ← beq_iff otherFinite isFinite_zero, nonzero] at value_eq
    cases value_eq
  · obtain ⟨exchanged, canonical⟩ := sub_unpacked_exchange (u := parts x) (v := parts y) finite
    have difference : parts (x - y) = (parts x).sub Format.binary64 (parts y) :=
      unpack_pack canonical
    have otherCanonical : Canonical ((parts y).sub Format.binary64 (parts x)) := by
      rw [exchanged]
      exact canonical_neg canonical
    refine eq_of_parts_eq ?_
    rw [parts_neg, difference, ← exchanged]
    exact unpack_pack otherCanonical

end Opposites

/-! ### Complements -/

/-- The complement of a double from one half to 1 needs no rounding: both are multiples of the
spacing at the double, and there are at most `2 ^ 53` of them up to 1. -/
theorem onGrid_complement {v : ℝ} (half : 1 / 2 ≤ v) (le_one : v ≤ 1) (fixed : rounded v = v) :
    OnGrid (1 - v) := by
  have positive : 0 < v := by linarith
  have least : -53 ≤ quantum v := by
    have spacing : quantum (1 / 2) = -53 := quantum_of_bounds (k := -1) (by norm_num) (by norm_num)
    rw [← spacing]
    refine quantum_mono (by norm_num) ?_
    rwa [abs_of_pos positive, abs_of_pos (by norm_num)]
  have most : quantum v ≤ -52 := by
    have spacing : quantum 1 = -52 := quantum_of_bounds (k := 0) (by norm_num) (by norm_num)
    rw [← spacing]
    refine quantum_mono positive.ne' ?_
    rwa [abs_of_pos positive, abs_one]
  obtain ⟨count, count_eq⟩ : ∃ count : ℤ, v = count * 2 ^ quantum v :=
    ⟨roundEven (v / 2 ^ quantum v), fixed.symm⟩
  have unit : (1 : ℝ) = ((2 ^ (-quantum v).toNat : ℤ) : ℝ) * 2 ^ quantum v := by
    rw [Int.cast_pow, Int.cast_ofNat, ← zpow_natCast, Int.toNat_of_nonneg (by omega),
      ← zpow_add₀ (by norm_num), neg_add_cancel, zpow_zero]
  have scale : (0 : ℝ) < 2 ^ quantum v := by positivity
  refine ⟨2 ^ (-quantum v).toNat - count, quantum v, ?_, ?_, by omega⟩
  · rw [Int.cast_sub, sub_mul, ← unit, ← count_eq]
  · have above : (0 : ℝ) ≤ count := by
      rw [count_eq] at positive
      exact (pos_of_mul_pos_left positive scale.le).le
    have below : (count : ℝ) ≤ ((2 ^ (-quantum v).toNat : ℤ) : ℝ) := by
      refine le_of_mul_le_mul_right ?_ scale
      rwa [← unit, ← count_eq]
    have above : 0 ≤ count := by exact_mod_cast above
    have below : count ≤ 2 ^ (-quantum v).toNat := by exact_mod_cast below
    have few : (2 : ℤ) ^ (-quantum v).toNat ≤ 2 ^ 53 :=
      pow_le_pow_right₀ (by norm_num) (by omega)
    rw [abs_of_nonneg (by omega)]
    omega

theorem inUnit_of_half_le {x : Float} (half : 0.5 ≤ x) (le_one : x ≤ 1.0) : InUnit x := by
  have finite := isFinite_of_le_of_le isFinite_half isFinite_one half le_one
  rw [le_iff isFinite_half finite, value_half] at half
  rw [le_iff finite isFinite_one, value_one] at le_one
  exact inUnit_iff.mpr ⟨finite, by linarith, le_one⟩

/-- **From one half on, the complement of the complement is the number itself**, bit for bit. -/
theorem complement_complement {x : Float} (half : 0.5 ≤ x) (le_one : x ≤ 1.0) :
    1.0 - (1.0 - x) = x := by
  have finite := isFinite_of_le_of_le isFinite_half isFinite_one half le_one
  rw [le_iff isFinite_half finite, value_half] at half
  rw [le_iff finite isFinite_one, value_one] at le_one
  have fixed : rounded (value x) = value x := rounded_realOf (canonical_parts x)
  have first := rounds_sub isFinite_one finite
  rw [value_one] at first
  obtain ⟨otherFinite, value_eq, _⟩ := finite_of_rounds first (by linarith) (by linarith)
  rw [rounded_of_onGrid (onGrid_complement half le_one fixed)] at value_eq
  have second := rounds_sub isFinite_one otherFinite
  rw [value_one, value_eq, sub_sub_cancel] at second
  obtain ⟨thirdFinite, other_value_eq, _⟩ := finite_of_rounds second (by linarith) (by linarith)
  rw [fixed] at other_value_eq
  refine eq_of_value_eq thirdFinite finite ?_ other_value_eq
  rw [other_value_eq]
  linarith

end IncompleteBeta.Binary64
