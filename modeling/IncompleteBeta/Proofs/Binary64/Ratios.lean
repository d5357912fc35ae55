/-
**Ratios of rounded numbers.**

Products, quotients and square roots are followed through their roundings by ratios: every rounding
takes or gives a small part of a number that is not subnormal, and the parts multiply.

* `abs_rounded_sub_le_of_normal`: the part that one rounding takes or gives;
* `kept`, `Alike`: numbers apart by so many roundings;
* **`alike_rounded`**, `Alike.rounded`: one rounding, and one more;
* `Alike.div`, `Alike.sqrt`, `Alike.mul_left`: the operations between them;
* **`Alike.abs_min_sub_le`**: such numbers are close below any bound.
-/

import IncompleteBeta.Proofs.Binary64.Middle

namespace IncompleteBeta.Binary64

/-- A number that is not subnormal is rounded by a small part of it. -/
theorem abs_rounded_sub_le_of_normal {v : ℝ} (normal : 2 ^ (-1022 : ℤ) ≤ v) :
    |rounded v - v| ≤ 2 ^ (-52 : ℤ) * v := by
  have positive : 0 < v := lt_of_lt_of_le (by positivity) normal
  have least : (2 : ℝ) ^ (-1075 : ℤ) ≤ 2 ^ (-53 : ℤ) * v :=
    calc (2 : ℝ) ^ (-1075 : ℤ) = 2 ^ (-53 : ℤ) * 2 ^ (-1022 : ℤ) := by
          rw [← zpow_add₀ (by norm_num)]
          norm_num
      _ ≤ 2 ^ (-53 : ℤ) * v := mul_le_mul_of_nonneg_left normal (by positivity)
  calc |rounded v - v| ≤ 2 ^ (-53 : ℤ) * |v| + 2 ^ (-1075 : ℤ) := abs_rounded_sub_le_mul v
    _ ≤ 2 ^ (-53 : ℤ) * v + 2 ^ (-53 : ℤ) * v := by
        rw [abs_of_pos positive]
        exact add_le_add_right least _
    _ = 2 ^ (-52 : ℤ) * v := by
        norm_num
        ring

attribute [local instance] atLeastTwo_two in
/-- The part of a number that one rounding leaves at least. -/
noncomputable def kept : ℝ := 1 - 2 ^ (-52 : ℤ)

theorem kept_pos : 0 < kept := by
  unfold kept
  norm_num

theorem kept_le_one : kept ≤ 1 := by
  unfold kept
  norm_num

theorem kept_pow_le_one (count : ℕ) : kept ^ count ≤ 1 := pow_le_one₀ kept_pos.le kept_le_one

/-- Roundings take little away together. -/
theorem one_sub_kept_pow_le (count : ℕ) : 1 - kept ^ count ≤ count * 2 ^ (-52 : ℤ) := by
  have bernoulli := one_add_mul_le_pow (a := -(2 : ℝ) ^ (-52 : ℤ)) (by norm_num) count
  have base : 1 + -(2 : ℝ) ^ (-52 : ℤ) = kept := by
    unfold kept
    ring
  rw [base] at bernoulli
  linarith

/-- **Numbers that are so many roundings apart.** -/
structure Alike (count : ℕ) (v w : ℝ) : Prop where
  nonneg : 0 ≤ v
  otherNonneg : 0 ≤ w
  above : kept ^ count * v ≤ w
  below : kept ^ count * w ≤ v

section Alike

variable {count otherCount : ℕ} {v w p q z c : ℝ}

theorem Alike.refl (nonneg : 0 ≤ v) : Alike 0 v v :=
  ⟨nonneg, nonneg, by rw [pow_zero, one_mul], by rw [pow_zero, one_mul]⟩

theorem Alike.pos (alike : Alike count v w) (positive : 0 < v) : 0 < w :=
  (mul_pos (pow_pos kept_pos count) positive).trans_le alike.above

/-- **One rounding of a number that is not subnormal.** -/
theorem alike_rounded (normal : 2 ^ (-1022 : ℤ) ≤ v) : Alike 1 v (rounded v) := by
  have positive : 0 < v := lt_of_lt_of_le (by positivity) normal
  obtain ⟨above, below⟩ := abs_le.mp (abs_rounded_sub_le_of_normal normal)
  refine ⟨positive.le, rounded_nonneg positive.le, ?_, ?_⟩
  · rw [pow_one, kept]
    linarith
  · have small : 0 ≤ (2 : ℝ) ^ (-52 : ℤ) * 2 ^ (-52 : ℤ) * v := by positivity
    rw [pow_one]
    calc kept * rounded v ≤ kept * (v + 2 ^ (-52 : ℤ) * v) :=
          mul_le_mul_of_nonneg_left (by linarith) kept_pos.le
      _ = v - 2 ^ (-52 : ℤ) * 2 ^ (-52 : ℤ) * v := by
          rw [kept]
          ring
      _ ≤ v := by linarith

/-- Roundings in a row. -/
theorem Alike.trans (alike : Alike count v w) (otherAlike : Alike otherCount w z) :
    Alike (count + otherCount) v z := by
  refine ⟨alike.nonneg, otherAlike.otherNonneg, ?_, ?_⟩
  · calc kept ^ (count + otherCount) * v = kept ^ otherCount * (kept ^ count * v) := by ring
      _ ≤ kept ^ otherCount * w := mul_le_mul_of_nonneg_left alike.above (pow_pos kept_pos _).le
      _ ≤ z := otherAlike.above
  · calc kept ^ (count + otherCount) * z = kept ^ count * (kept ^ otherCount * z) := by ring
      _ ≤ kept ^ count * w := mul_le_mul_of_nonneg_left otherAlike.below (pow_pos kept_pos _).le
      _ ≤ v := alike.below

/-- **One rounding more**, of a number that a few roundings keep from being subnormal. -/
theorem Alike.rounded (alike : Alike count v w) (few : count ≤ 100)
    (large : 2 ^ (-1000 : ℤ) ≤ v) : Alike (count + 1) v (rounded w) := by
  refine alike.trans (alike_rounded ?_)
  have few : (count : ℝ) ≤ 100 := by exact_mod_cast few
  have half : 1 / 2 ≤ kept ^ count := by
    have taken := one_sub_kept_pow_le count
    norm_num at taken
    linarith
  have step : (2 : ℝ) ^ (-1001 : ℤ) = 1 / 2 * 2 ^ (-1000 : ℤ) := by
    rw [show (-1001 : ℤ) = -1 + -1000 by norm_num, zpow_add₀ (by norm_num)]
    norm_num
  calc (2 : ℝ) ^ (-1022 : ℤ) ≤ 2 ^ (-1001 : ℤ) :=
        zpow_le_zpow_right₀ (by norm_num) (by norm_num)
    _ = 1 / 2 * 2 ^ (-1000 : ℤ) := step
    _ ≤ kept ^ count * v := mul_le_mul half large (by positivity) (pow_pos kept_pos _).le
    _ ≤ w := alike.above

/-- A factor that is exact. -/
theorem Alike.mul_left (alike : Alike count v w) (nonneg : 0 ≤ c) :
    Alike count (c * v) (c * w) := by
  refine ⟨mul_nonneg nonneg alike.nonneg, mul_nonneg nonneg alike.otherNonneg, ?_, ?_⟩
  · rw [mul_left_comm]
    exact mul_le_mul_of_nonneg_left alike.above nonneg
  · rw [mul_left_comm]
    exact mul_le_mul_of_nonneg_left alike.below nonneg

/-- A quotient of which one side is enlarged. -/
theorem mul_div_le_div (positive : 0 < p) (otherPositive : 0 < q) (nonneg : 0 ≤ w)
    (above : kept ^ count * v ≤ w) (below : kept ^ otherCount * q ≤ p) :
    kept ^ (count + otherCount) * (v / p) ≤ w / q := by
  rw [← mul_div_assoc, div_le_div_iff₀ positive otherPositive]
  calc kept ^ (count + otherCount) * v * q = (kept ^ count * v) * (kept ^ otherCount * q) := by ring
    _ ≤ w * p := mul_le_mul above below
        (mul_nonneg (pow_pos kept_pos _).le otherPositive.le) nonneg

/-- The roundings of both sides of a quotient count. -/
theorem Alike.div (alike : Alike count v w) (otherAlike : Alike otherCount p q) (positive : 0 < p)
    (otherPositive : 0 < q) : Alike (count + otherCount) (v / p) (w / q) :=
  ⟨div_nonneg alike.nonneg positive.le, div_nonneg alike.otherNonneg otherPositive.le,
    mul_div_le_div positive otherPositive alike.otherNonneg alike.above otherAlike.below,
    mul_div_le_div otherPositive positive alike.nonneg alike.below otherAlike.above⟩

theorem mul_sqrt_le_sqrt (above : kept ^ count * v ≤ w) : kept ^ count * √v ≤ √w := by
  have factor : 0 ≤ kept ^ count := (pow_pos kept_pos _).le
  calc kept ^ count * √v ≤ √(kept ^ count) * √v :=
        mul_le_mul_of_nonneg_right
          (Real.le_sqrt_of_sq_le (pow_le_of_le_one factor (kept_pow_le_one count) two_ne_zero))
          (Real.sqrt_nonneg v)
    _ = √(kept ^ count * v) := (Real.sqrt_mul factor v).symm
    _ ≤ √w := Real.sqrt_le_sqrt above

/-- A root is not further away than what it is taken of. -/
theorem Alike.sqrt (alike : Alike count v w) : Alike count √v √w :=
  ⟨Real.sqrt_nonneg v, Real.sqrt_nonneg w, mul_sqrt_le_sqrt alike.above,
    mul_sqrt_le_sqrt alike.below⟩

/-- A bounded number is little more than one that is so many roundings away. -/
theorem min_sub_min_le (bound : 0 ≤ c) (nonneg : 0 ≤ v) (above : kept ^ count * v ≤ w) :
    min v c - min w c ≤ count * 2 ^ (-52 : ℤ) * c := by
  have factor : 0 ≤ kept ^ count := (pow_pos kept_pos _).le
  have part : kept ^ count * min v c ≤ min w c := by
    refine le_min ?_ ?_
    · exact (mul_le_mul_of_nonneg_left (min_le_left v c) factor).trans above
    · exact (mul_le_of_le_one_left (le_min nonneg bound) (kept_pow_le_one count)).trans
        (min_le_right v c)
  calc min v c - min w c ≤ (1 - kept ^ count) * min v c := by linarith
    _ ≤ (1 - kept ^ count) * c :=
        mul_le_mul_of_nonneg_left (min_le_right v c) (sub_nonneg.mpr (kept_pow_le_one count))
    _ ≤ count * 2 ^ (-52 : ℤ) * c := mul_le_mul_of_nonneg_right (one_sub_kept_pow_le count) bound

/-- **Numbers a few roundings apart are close below a bound.** -/
theorem Alike.abs_min_sub_le (alike : Alike count v w) (bound : 0 ≤ c) :
    |min v c - min w c| ≤ count * 2 ^ (-52 : ℤ) * c := by
  refine abs_le.mpr ⟨?_, min_sub_min_le bound alike.nonneg alike.above⟩
  have := min_sub_min_le bound alike.otherNonneg alike.below
  linarith

end Alike

end IncompleteBeta.Binary64
