/-
**How many rounds a fraction gets.**

The rounds are computed in doubles: the product and the sum of the shapes, their quotient, its root
and ten times that. Five roundings move the result by far less than one round, unless the product of
the shapes overflows. The quotient is infinite or not a number then, and the bound is all that is
left.

* `exactCap`: the rounds by the formula, without rounding;
* `scaledSpread`, **`roundCap_of_finite`**: the rounds of shapes with a finite product;
* `alike_scaledSpread`, `scaledSpread_le`: the rounded spread is alike to the exact one, or both are
  small;
* **`roundCap_close`**: such shapes get the rounds of the formula, up to one;
* **`roundCap_of_overflow`**: all other shapes get as many as there can be;
* **`roundCap_close_iff`**: where the rounds are those of the formula;
* `roundCap_far_apart`: shapes with a thousand times as many.
-/

import IncompleteBeta.Proofs.Arguments
import IncompleteBeta.Proofs.Binary64.Errors
import IncompleteBeta.Proofs.Binary64.Overflow
import IncompleteBeta.Proofs.Binary64.Ratios
import IncompleteBeta.Proofs.Binary64.Truncation

namespace IncompleteBeta

open Binary64 (Alike LiesBetween infinity infinity_div isFinite_add_of_small isFinite_zero
  le_rounded_of_onGrid lt_iff onGrid_value onGrid_zpow rounded rounded_eq_zero_or_le
  rounded_le_of_onGrid rounded_le_two_mul rounded_nonneg rounds_add rounds_div rounds_mul
  rounds_sqrt sum_comm toNat_toUInt64 value value_eq_of_liesBetween)

/-- That 10 is a numeral of the reals, as a fact with a name. -/
theorem atLeastTwo_ten : Nat.AtLeastTwo 10 := inferInstance

attribute [local instance] atLeastTwo_ten in
/-- The rounds for two shapes by the formula, without rounding. -/
noncomputable def exactCap (v w : ℝ) : ℕ :=
  minRounds + ⌊min (10 * √(v * w / (v + w))) (10 ^ 9)⌋₊

/-! ### The spread with its roundings -/

section Spread

variable {v w : ℝ}

/-- The quotient of product and sum, of which all three are rounded. -/
noncomputable def roundedRatio (v w : ℝ) : ℝ := rounded (rounded (v * w) / rounded (v + w))

attribute [local instance] atLeastTwo_ten in
/-- Ten times the root of it, with two more roundings. -/
noncomputable def scaledSpread (v w : ℝ) : ℝ := rounded (10 * rounded √(roundedRatio v w))

theorem roundedRatio_nonneg (nonneg : 0 ≤ v) (otherNonneg : 0 ≤ w) : 0 ≤ roundedRatio v w :=
  rounded_nonneg (div_nonneg (rounded_nonneg (mul_nonneg nonneg otherNonneg))
    (rounded_nonneg (add_nonneg nonneg otherNonneg)))

theorem scaledSpread_nonneg : 0 ≤ scaledSpread v w :=
  rounded_nonneg (mul_nonneg (by norm_num) (rounded_nonneg (Real.sqrt_nonneg _)))

/-- Subnormal numbers included, a rounding is a factor of 2 at most. -/
theorem rounded_quotient_le {k : ℤ} (nonneg : 0 < v) (otherNonneg : 0 < w)
    (positive : 0 < rounded (v + w)) (le : v * w / (v + w) ≤ 2 ^ (2 * k)) :
    rounded (v * w) / rounded (v + w) ≤ 2 ^ (2 * (k + 1)) := by
  have sum_le : v + w ≤ 2 * rounded (v + w) :=
    (rounded_eq_zero_or_le (by positivity)).resolve_left positive.ne'
  have product_le : v * w ≤ 2 ^ (2 * k) * (v + w) := by rwa [div_le_iff₀ (by positivity)] at le
  have scale : (2 : ℝ) ^ (2 * (k + 1)) = 4 * 2 ^ (2 * k) := by
    rw [mul_add, zpow_add₀ (by norm_num)]
    norm_num
    ring
  rw [div_le_iff₀ positive]
  calc rounded (v * w) ≤ 2 * (v * w) := rounded_le_two_mul (by positivity)
    _ ≤ 2 * (2 ^ (2 * k) * (2 * rounded (v + w))) := by
        refine mul_le_mul_of_nonneg_left (product_le.trans ?_) (by norm_num)
        exact mul_le_mul_of_nonneg_left sum_le (by positivity)
    _ = 2 ^ (2 * (k + 1)) * rounded (v + w) := by
        rw [scale]
        ring

section Size

variable {k : ℤ} (least : -500 ≤ k) (most : k ≤ 500) (nonneg : 0 < v) (otherNonneg : 0 < w)
  (positive : 0 < rounded (v + w)) (le : v * w / (v + w) ≤ 2 ^ (2 * k))
include least most nonneg otherNonneg positive le

theorem roundedRatio_le : roundedRatio v w ≤ 2 ^ (2 * (k + 1)) :=
  rounded_le_of_onGrid (onGrid_zpow (by omega)) (rounded_quotient_le nonneg otherNonneg positive le)

theorem sqrt_roundedRatio_le : √(roundedRatio v w) ≤ 2 ^ (k + 1) := by
  refine Real.sqrt_le_iff.mpr ⟨by positivity, ?_⟩
  rw [← zpow_natCast, ← zpow_mul, mul_comm]
  exact roundedRatio_le least most nonneg otherNonneg positive le

theorem ten_mul_le : 10 * rounded √(roundedRatio v w) ≤ 2 ^ (k + 5) := by
  have root := rounded_le_of_onGrid (onGrid_zpow (by omega))
    (sqrt_roundedRatio_le least most nonneg otherNonneg positive le)
  calc 10 * rounded √(roundedRatio v w) ≤ 2 ^ (4 : ℤ) * 2 ^ (k + 1) :=
        mul_le_mul (by norm_num) root (rounded_nonneg (Real.sqrt_nonneg _)) (by norm_num)
    _ = 2 ^ (k + 5) := by
        rw [← zpow_add₀ (by norm_num)]
        ring_nf

/-- **A small spread remains small.** -/
theorem scaledSpread_le : scaledSpread v w ≤ 2 ^ (k + 5) :=
  rounded_le_of_onGrid (onGrid_zpow (by omega))
    (ten_mul_le least most nonneg otherNonneg positive le)

end Size

/-- The ratio of product and sum is smaller than both numbers. -/
theorem ratio_le (positive : 0 < v) (otherPositive : 0 < w) :
    v * w / (v + w) ≤ v ∧ v * w / (v + w) ≤ w := by
  rw [div_le_iff₀ (by positivity), div_le_iff₀ (by positivity)]
  constructor <;> nlinarith [mul_pos positive otherPositive]

/-- **A spread that is not small** is five roundings away from the exact one. -/
theorem alike_scaledSpread (positive : 0 < v) (otherPositive : 0 < w)
    (large : 2 ^ (-14 : ℤ) ≤ v * w / (v + w)) :
    Alike 5 (10 * √(v * w / (v + w))) (scaledSpread v w) := by
  have scale : (2 : ℝ) ^ (-1000 : ℤ) ≤ 2 ^ (-28 : ℤ) :=
    zpow_le_zpow_right₀ (by norm_num) (by norm_num)
  obtain ⟨below, belowRatio⟩ := ratio_le positive otherPositive
  have sum_pos : 0 < v + w := by positivity
  have product_large : 2 ^ (-1000 : ℤ) ≤ v * w :=
    calc (2 : ℝ) ^ (-1000 : ℤ) ≤ 2 ^ (-28 : ℤ) := scale
      _ = 2 ^ (-14 : ℤ) * 2 ^ (-14 : ℤ) := by norm_num
      _ ≤ v * w := mul_le_mul (large.trans below) (large.trans belowRatio) (by positivity)
        positive.le
  have lift {r : ℝ} (above : 2 ^ (-14 : ℤ) ≤ r) : 2 ^ (-1000 : ℤ) ≤ r :=
    (scale.trans (by norm_num)).trans above
  have sum := (Alike.refl sum_pos.le).rounded (by norm_num)
    (lift ((large.trans below).trans (le_add_of_nonneg_right otherPositive.le)))
  have product := (Alike.refl (mul_pos positive otherPositive).le).rounded (by norm_num)
    product_large
  have quotient := product.div sum sum_pos (sum.pos sum_pos)
  have root := (quotient.rounded (by norm_num) (lift large)).sqrt
  have root_large : 2 ^ (-14 : ℤ) ≤ √(v * w / (v + w)) := by
    refine Real.le_sqrt_of_sq_le (le_trans ?_ large)
    norm_num
  have ten := (root.rounded (by norm_num) (lift root_large)).mul_left (c := 10) (by norm_num)
  exact ten.rounded (by norm_num)
    (lift (root_large.trans (le_mul_of_one_le_left (Real.sqrt_nonneg _) (by norm_num))))

/-- **Up to the bound, the spread with its roundings is less than one away from the exact one.** -/
theorem abs_scaledSpread_sub_le (nonneg : 0 < v) (otherNonneg : 0 < w)
    (positive : 0 < rounded (v + w)) :
    |min (scaledSpread v w) (10 ^ 9) - min (10 * √(v * w / (v + w))) (10 ^ 9)| < 1 := by
  rcases le_total (2 ^ (-14 : ℤ)) (v * w / (v + w)) with large | small
  · have close := (alike_scaledSpread nonneg otherNonneg large).abs_min_sub_le
      (c := 10 ^ 9) (by norm_num)
    rw [abs_sub_comm]
    exact close.trans_lt (by norm_num)
  · have below := scaledSpread_le (k := -7) (by norm_num) (by norm_num) nonneg otherNonneg positive
      (small.trans_eq (by norm_num))
    have belowRatio : √(v * w / (v + w)) ≤ 2 ^ (-7 : ℤ) :=
      Real.sqrt_le_iff.mpr ⟨by positivity, small.trans (by norm_num)⟩
    have root_nonneg := Real.sqrt_nonneg (v * w / (v + w))
    have spread_nonneg := scaledSpread_nonneg (v := v) (w := w)
    norm_num at below belowRatio
    rw [min_eq_left (by linarith), min_eq_left (by linarith)]
    exact abs_lt.mpr ⟨by linarith, by linarith⟩

end Spread

/-- Numbers less than one apart have neighbouring whole parts. -/
theorem floor_le_floor_add_one {v w : ℝ} (nonneg : 0 ≤ w) (close : v < w + 1) :
    ⌊v⌋₊ ≤ ⌊w⌋₊ + 1 := by
  rw [← Nat.floor_add_one nonneg]
  exact Nat.floor_le_floor close.le

/-- A shape bounds the rounds of the formula whatever the other one is. -/
theorem exactCap_le {v w : ℝ} (positive : 0 < v) (otherPositive : 0 < w) :
    exactCap v w ≤ minRounds + ⌊10 * √w⌋₊ := by
  refine Nat.add_le_add_left (Nat.floor_le_floor ((min_le_left _ _).trans ?_)) _
  exact mul_le_mul_of_nonneg_left (Real.sqrt_le_sqrt (ratio_le positive otherPositive).2)
    (by norm_num)

/-! ### Shapes with a finite product -/

section Finite

variable {a b : Float} (shape : IsShape a) (otherShape : IsShape b)
  (finite : (a * b).isFinite = true)

include shape otherShape

theorem rounded_sum_pos : 0 < rounded (value a + value b) :=
  shape.positive.trans_le
    (le_rounded_of_onGrid (onGrid_value a) (by linarith [otherShape.positive]))

include finite

/-- A product that is finite was below the range before it was rounded. -/
theorem product_lt : value a * value b < 2 ^ (1024 : ℤ) := by
  have nonneg := (mul_pos shape.positive otherShape.positive).le
  have range := ((rounds_mul shape.finite otherShape.finite).isFinite_iff nonneg).mp finite
  by_contra above
  exact absurd range (not_lt.mpr (le_rounded_of_onGrid (onGrid_zpow (by norm_num))
    (not_lt.mp above)))

/-- The sum does not overflow either: one of the shapes is small beside the largest doubles. -/
theorem isFinite_sum : (a + b).isFinite = true := by
  have range := product_lt shape otherShape finite
  rcases le_or_gt (value b) (2 ^ (969 : ℤ)) with small | large
  · refine (isFinite_add_of_small shape.finite otherShape.finite ?_).1
    rwa [abs_of_pos otherShape.positive]
  rcases le_or_gt (value a) (2 ^ (969 : ℤ)) with small | beyond
  · rw [sum_comm]
    refine (isFinite_add_of_small otherShape.finite shape.finite ?_).1
    rwa [abs_of_pos shape.positive]
  have product : (2 : ℝ) ^ (969 : ℤ) * 2 ^ (969 : ℤ) ≤ value a * value b :=
    mul_le_mul beyond.le large.le (by positivity) shape.positive.le
  rw [← zpow_add₀ (by norm_num)] at product
  have above : (2 : ℝ) ^ (1024 : ℤ) ≤ 2 ^ (969 + 969 : ℤ) :=
    zpow_le_zpow_right₀ (by norm_num) (by norm_num)
  exact absurd range (not_lt.mpr (above.trans product))

/-- The ratio of product and sum is below the root of the range. -/
theorem ratio_le_of_finite : value a * value b / (value a + value b) ≤ 2 ^ (2 * 256 : ℤ) := by
  have range := product_lt shape otherShape finite
  obtain ⟨below, belowRatio⟩ := ratio_le shape.positive otherShape.positive
  have nonneg : 0 ≤ value a * value b / (value a + value b) := by
    have := shape.positive
    have := otherShape.positive
    positivity
  refine abs_le_of_sq_le_sq' ?_ (by positivity) |>.2
  rw [sq, sq, ← zpow_add₀ (by norm_num)]
  exact (mul_le_mul below belowRatio nonneg shape.positive.le).trans range.le

/-- **The computed spread is finite** and has the five roundings. -/
theorem value_scaled : (10.0 * (a * b / (a + b)).sqrt).isFinite = true ∧
    value (10.0 * (a * b / (a + b)).sqrt) = scaledSpread (value a) (value b) := by
  have positive := rounded_sum_pos shape otherShape
  have ratio := ratio_le_of_finite shape otherShape finite
  have finite_sum := isFinite_sum shape otherShape finite
  have product_eq := (rounds_mul shape.finite otherShape.finite).value_eq finite
  have sum_eq := (rounds_add shape.finite otherShape.finite).value_eq finite_sum
  -- each operation is rounded below a power of two in the range
  have quotient := rounds_div finite finite_sum (by rw [sum_eq]; exact positive.ne')
  rw [product_eq, sum_eq] at quotient
  obtain ⟨finite_quotient, quotient_eq⟩ := quotient.isFinite_of_le
    (div_nonneg (rounded_nonneg (mul_pos shape.positive otherShape.positive).le) positive.le)
    (rounded_quotient_le shape.positive otherShape.positive positive ratio)
    (onGrid_zpow (by norm_num)) (zpow_lt_range (by norm_num))
  have root := rounds_sqrt finite_quotient (by
    rw [quotient_eq]
    exact roundedRatio_nonneg shape.positive.le otherShape.positive.le)
  rw [quotient_eq] at root
  obtain ⟨finite_root, root_eq⟩ := root.isFinite_of_le (Real.sqrt_nonneg _)
    (sqrt_roundedRatio_le (by norm_num) (by norm_num) shape.positive otherShape.positive positive
      ratio)
    (onGrid_zpow (by norm_num)) (zpow_lt_range (by norm_num))
  have ten_lies : LiesBetween 10 10 10.0 := by decide +kernel
  have ten : value 10.0 = 10 := by exact_mod_cast value_eq_of_liesBetween ten_lies
  have product := rounds_mul (x := 10.0) rfl finite_root
  rw [ten, root_eq] at product
  exact product.isFinite_of_le (mul_nonneg (by norm_num) (rounded_nonneg (Real.sqrt_nonneg _)))
    (ten_mul_le (by norm_num) (by norm_num) shape.positive otherShape.positive positive ratio)
    (onGrid_zpow (by norm_num)) (zpow_lt_range (by norm_num))

/-- **The rounds of shapes with a finite product.** -/
theorem roundCap_of_finite : roundCap a b =
    minRounds + ⌊min (scaledSpread (value a) (value b)) (10 ^ 9)⌋₊ := by
  obtain ⟨finite_scaled, value_eq⟩ := value_scaled shape otherShape finite
  have finite_bound : (1e9 : Float).isFinite = true := rfl
  have bound_lies : LiesBetween (10 ^ 9) (10 ^ 9) 1e9 := by decide +kernel
  have bound : value 1e9 = 10 ^ 9 := by exact_mod_cast value_eq_of_liesBetween bound_lies
  unfold roundCap
  dsimp only
  split
  next below =>
    rw [lt_iff finite_scaled finite_bound, bound, value_eq] at below
    rw [toNat_toUInt64 finite_scaled (by rw [value_eq]; exact scaledSpread_nonneg)
      (by rw [value_eq]; exact below.trans (by norm_num)), value_eq, min_eq_left below.le]
  next above =>
    rw [lt_iff finite_scaled finite_bound, bound, value_eq, not_lt] at above
    rw [toNat_toUInt64 finite_bound (by rw [bound]; norm_num) (by rw [bound]; norm_num), bound,
      min_eq_right above]

/-- **They are those of the formula, up to one.** -/
theorem roundCap_close : roundCap a b ≤ exactCap (value a) (value b) + 1 ∧
    exactCap (value a) (value b) ≤ roundCap a b + 1 := by
  have close := abs_scaledSpread_sub_le shape.positive otherShape.positive
    (rounded_sum_pos shape otherShape)
  obtain ⟨above, below⟩ := abs_lt.mp close
  rw [roundCap_of_finite shape otherShape finite, exactCap, add_assoc, add_assoc]
  exact ⟨Nat.add_le_add_left (floor_le_floor_add_one
      (le_min (mul_nonneg (by norm_num) (Real.sqrt_nonneg _)) (by norm_num)) (by linarith)) _,
    Nat.add_le_add_left (floor_le_floor_add_one
      (le_min scaledSpread_nonneg (by norm_num)) (by linarith)) _⟩

end Finite

/-! ### Shapes with an infinite product -/

section Overflow

variable {a b : Float} (shape : IsShape a) (otherShape : IsShape b)
include shape otherShape

/-- **Only the bound is left** where the product overflows: the quotient is infinite, or it is not a
number and not below the bound either. -/
theorem roundCap_of_overflow (overflow : ¬(a * b).isFinite = true) :
    roundCap a b = minRounds + 10 ^ 9 := by
  have product := (rounds_mul shape.finite otherShape.finite).nonneg_or_infinity
    (mul_pos shape.positive otherShape.positive).le
  have infinite : a * b = infinity := product.resolve_left fun finite => overflow finite.1
  have sum := rounds_add shape.finite otherShape.finite
  have bound : (1e9 : Float).toUInt64.toNat = 10 ^ 9 := by decide +kernel
  unfold roundCap
  rw [infinite]
  rcases sum.nonneg_or_infinity (add_pos shape.positive otherShape.positive).le with
    ⟨finite, _⟩ | infinite_sum
  · have above : ¬10.0 * infinity.sqrt < 1e9 := by decide +kernel
    rw [infinity_div finite (by rw [sum.value_eq finite]; exact rounded_sum_pos shape otherShape)]
    dsimp only
    rw [if_neg above, bound]
  · have unordered : ¬10.0 * (infinity / infinity).sqrt < 1e9 := by decide +kernel
    rw [infinite_sum]
    dsimp only
    rw [if_neg unordered, bound]

/-- **Where the rounds are those of the formula**, up to one: the product of the shapes is finite,
or the bound is what the formula gives. -/
theorem roundCap_close_iff : roundCap a b ≤ exactCap (value a) (value b) + 1 ∧
      exactCap (value a) (value b) ≤ roundCap a b + 1 ↔
    (a * b).isFinite = true ∨ 10 ^ 9 - 1 ≤ 10 * √(value a * value b / (value a + value b)) := by
  by_cases finite : (a * b).isFinite = true
  · exact iff_of_true (roundCap_close shape otherShape finite) (.inl finite)
  · rw [roundCap_of_overflow shape otherShape finite, or_iff_right finite, exactCap]
    generalize 10 * √(value a * value b / (value a + value b)) = spread
    have most : ⌊min spread (10 ^ 9)⌋₊ ≤ 10 ^ 9 := by
      refine Nat.floor_le_of_le ?_
      exact_mod_cast min_le_right spread (10 ^ 9)
    have least : 10 ^ 9 - 1 ≤ ⌊min spread (10 ^ 9)⌋₊ ↔ 10 ^ 9 - 1 ≤ spread := by
      rw [Nat.le_floor_iff' (by norm_num), le_min_iff]
      norm_num
    rw [← least]
    omega

end Overflow

/-- Shapes far apart get about a thousand times the rounds of the formula. -/
theorem roundCap_far_apart : roundCap 1e300 1e10 = minRounds + 10 ^ 9 ∧
    exactCap (value 1e300) (value 1e10) ≤ minRounds + 10 ^ 6 := by
  have shape : IsShape 1e300 := isShape_iff.mpr (by decide +kernel)
  have small_lies : LiesBetween (10 ^ 10) (10 ^ 10) 1e10 := by decide +kernel
  have small : value 1e10 = 10 ^ 10 := by exact_mod_cast value_eq_of_liesBetween small_lies
  have root : √(10 ^ 10) = (10 ^ 5 : ℝ) := by
    rw [Real.sqrt_eq_iff_mul_self_eq (by norm_num) (by norm_num)]
    norm_num
  have whole : ⌊(10 : ℝ) * 10 ^ 5⌋₊ = 10 ^ 6 := by
    rw [← Nat.floor_natCast (R := ℝ) (10 ^ 6)]
    norm_num
  refine ⟨by decide +kernel, ?_⟩
  rw [small, ← whole, ← root]
  exact exactCap_le shape.positive (by norm_num)

end IncompleteBeta
