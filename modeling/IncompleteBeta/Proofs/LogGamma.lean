/-
**Where the logarithm of the gamma function is a number.**

Lanczos' sum alternates in sign, so its logarithm needs an argument, and the terms around it grow
without bound. The partial fractions of the sum, on a common denominator, have a numerator without
negative coefficients from the left end of the domain on, and that is far more than their rounding
takes. The terms around it only overflow upwards.

* `Summed`, `summed_step`, **`summed_foldl`**: the sum in doubles is near the exact one, numerator
  by numerator;
* **`fractions_nonneg`**, `lanczosSum_positive`: the exact one is not below its constant term;
* **`logGammaLanczos_number`**, `logGammaLanczos_raised`: the logarithm is finite or infinity from
  one half on, and below that when it is raised;
* `logGammaWithin`: the function as it calls itself;
* **`logGamma_numbers`**: it is a number at the positive finite doubles and at no others, and calls
  itself once at most.
-/

import IncompleteBeta.Gamma
import IncompleteBeta.Proofs.Binary64.Errors
import IncompleteBeta.Proofs.Binary64.Overflow
import IncompleteBeta.Proofs.Binary64.Ratios
import Mathlib.Data.List.Forall2
import Mathlib.Tactic.FieldSimp

namespace IncompleteBeta

open Binary64 (LiesBetween Near NumberOrInfinity OnGrid Rounds abs_rounded_sub_le_of_normal infinity
  isFinite_add_of_small isFinite_half isFinite_one isFinite_sub_of_nonneg isFinite_zero
  isNaN_of_isFinite le_iff le_rounded_of_onGrid liesBetween_spec ln ln_finite lt_iff nan
  not_le_of_lt numberOrInfinity_leading onGrid_half onGrid_one positive_or_infinity rounded
  rounded_nonneg rounded_of_onGrid rounds_div value value_eq_of_liesBetween value_half value_one
  value_zero)

/-! ### Lanczos' sum -/

section Sum

variable {z : Float}

/-- One numerator over its denominator is added, and the denominators are counted. -/
def lanczosStep (z : Float) (state : Float × Float) (numerator : Float) : Float × Float :=
  (state.1 + numerator / (z + state.2), state.2 + 1.0)

theorem lanczosSum_eq (z : Float) : lanczosSum z =
    (lanczosNumerators.foldl (lanczosStep z) (0.9999999999998099, 1.0)).1 := rfl

/-- The exact sum of numerators over `t`, `t + 1`, …. -/
noncomputable def fractions : List ℝ → ℝ → ℝ
  | [], _ => 0
  | numerator :: rest, t => numerator / t + fractions rest (t + 1)

/-- How large numerators are together. -/
noncomputable def magnitude : List ℝ → ℝ
  | [] => 0
  | numerator :: rest => |numerator| + magnitude rest

theorem magnitude_nonneg (numerators : List ℝ) : 0 ≤ magnitude numerators := by
  induction numerators with
  | nil => exact le_rfl
  | cons numerator rest ih => exact add_nonneg (abs_nonneg _) ih

/-- **A quotient by a sum that is rounded** is near the exact one. -/
theorem near_quotient {numerator index : Float} (finite : z.isFinite = true)
    (numeratorFinite : numerator.isFinite = true) (indexFinite : index.isFinite = true)
    (size : |value numerator| ≤ 2 ^ (12 : ℤ)) (half : 1 / 2 ≤ value z + value index)
    (small : |value index| ≤ 2 ^ (969 : ℤ)) :
    Near (numerator / (z + index)) (value numerator / (value z + value index)) (2 ^ (-38 : ℤ)) := by
  obtain ⟨finite_sum, sum_eq⟩ := isFinite_add_of_small finite indexFinite small
  generalize value z + value index = t at half sum_eq ⊢
  have roundedHalf : 1 / 2 ≤ rounded t := le_rounded_of_onGrid onGrid_half half
  have rounds := rounds_div numeratorFinite finite_sum (by rw [sum_eq]; linarith)
  rw [sum_eq] at rounds
  have move : |t - rounded t| ≤ 2 ^ (-52 : ℤ) * t := by
    have normal : (2 : ℝ) ^ (-1022 : ℤ) ≤ 2 ^ (-1 : ℤ) :=
      zpow_le_zpow_right₀ (by norm_num) (by norm_num)
    rw [abs_sub_comm]
    exact abs_rounded_sub_le_of_normal (normal.trans (by norm_num; linarith))
  have close : |value numerator / rounded t - value numerator / t| ≤ 2 ^ (-39 : ℤ) := by
    have difference : value numerator / rounded t - value numerator / t =
        value numerator * (t - rounded t) / (rounded t * t) := by
      have : t ≠ 0 := by linarith
      have : rounded t ≠ 0 := by linarith
      field_simp
    rw [difference, abs_div, abs_mul, abs_of_pos (by nlinarith : 0 < rounded t * t),
      div_le_iff₀ (by nlinarith)]
    calc |value numerator| * |t - rounded t| ≤ 2 ^ (12 : ℤ) * (2 ^ (-52 : ℤ) * t) :=
          mul_le_mul size move (abs_nonneg _) (by positivity)
      _ = 2 ^ (-39 : ℤ) * (1 / 2 * t) := by norm_num; ring
      _ ≤ 2 ^ (-39 : ℤ) * (rounded t * t) := by
          refine mul_le_mul_of_nonneg_left ?_ (by positivity)
          exact mul_le_mul_of_nonneg_right roundedHalf (by linarith)
  have range : |value numerator / rounded t| < 2 ^ (-39 + 53 : ℤ) := by
    rw [abs_div, abs_of_pos (by linarith : 0 < rounded t), div_lt_iff₀ (by linarith)]
    norm_num at size ⊢
    linarith
  have near := Near.of_rounds rounds close range (by norm_num) (by norm_num)
  norm_num at near ⊢
  exact near

/-- **The sum and the count so far**: the sum is near a number, and the count is a natural one. -/
structure Summed (state : Float × Float) (v error : ℝ) (n : ℕ) : Prop where
  near : Near state.1 v error
  finite : state.2.isFinite = true
  count : value state.2 = n

/-- A quotient at most doubles its numerator. -/
theorem abs_quotient_le {v t : ℝ} (half : 1 / 2 ≤ t) : |v / t| ≤ 2 * |v| := by
  rw [abs_div, abs_of_pos (by linarith : 0 < t), div_le_iff₀ (by linarith)]
  nlinarith [abs_nonneg v]

section Steps

variable (finite : z.isFinite = true) (low : -1 / 2 ≤ value z)
include finite low

/-- **One numerator** adds an error of its own. -/
theorem summed_step {state : Float × Float} {numerator : Float} {v error : ℝ} {n : ℕ}
    (summed : Summed state v error n) (numeratorFinite : numerator.isFinite = true) (first : 1 ≤ n)
    (last : n ≤ 100) (size : |v| + 2 * |value numerator| ≤ 8000)
    (errors : error + 2 ^ (-37 : ℤ) ≤ 1) :
    Summed (lanczosStep z state numerator) (v + value numerator / (value z + n))
      (error + 2 ^ (-37 : ℤ)) (n + 1) := by
  obtain ⟨near, finite_count, count⟩ := summed
  have first : (1 : ℝ) ≤ n := by exact_mod_cast first
  have last : (n : ℝ) ≤ 100 := by exact_mod_cast last
  have half : 1 / 2 ≤ value z + n := by linarith
  have sizeNumerator : |value numerator| ≤ 2 ^ (12 : ℤ) := by
    have := abs_nonneg v
    norm_num
    linarith
  have small : |value state.2| ≤ 2 ^ (969 : ℤ) :=
    calc |value state.2| = n := by rw [count, Nat.abs_cast]
      _ ≤ 2 ^ (7 : ℤ) := last.trans (by norm_num)
      _ ≤ 2 ^ (969 : ℤ) := zpow_le_zpow_right₀ (by norm_num) (by norm_num)
  have quotient := near_quotient finite numeratorFinite finite_count sizeNumerator (by rwa [count])
    small
  rw [count] at quotient
  have sum_le : |v + value numerator / (value z + n)| ≤ 8000 :=
    calc |v + value numerator / (value z + n)| ≤ |v| + |value numerator / (value z + n)| :=
          abs_add_le _ _
      _ ≤ |v| + 2 * |value numerator| := add_le_add_right (abs_quotient_le half) _
      _ ≤ 8000 := size
  have sum := near.add (k := -40) quotient (by norm_num at errors ⊢; linarith) (by norm_num)
    (by norm_num)
  obtain ⟨finite_next, next_eq⟩ := isFinite_add_of_small (y := 1.0) finite_count isFinite_one
    (by rw [value_one, abs_one]; exact one_le_zpow₀ (by norm_num) (by norm_num))
  have digits : n + 1 ≤ 2 ^ 53 := by
    have : n ≤ 100 := by exact_mod_cast last
    omega
  have grid : OnGrid ((n : ℝ) + 1) :=
    ⟨n + 1, 0, by norm_num, by rw [abs_of_nonneg (by omega)]; exact_mod_cast digits, by norm_num⟩
  refine ⟨⟨sum.finite, sum.close.trans (by norm_num; linarith)⟩, finite_next, ?_⟩
  rw [lanczosStep, next_eq, value_one, count, rounded_of_onGrid grid, Nat.cast_add_one]

/-- **The sum in doubles is near the exact one**: by induction on the numerators, with the size of
those to come. -/
theorem summed_foldl (numerators : List Float) (constants : ∀ c ∈ numerators, c.isFinite = true)
    {state : Float × Float} {v error : ℝ} {n : ℕ} (summed : Summed state v error n)
    (first : 1 ≤ n) (last : n + numerators.length ≤ 100)
    (size : |v| + 2 * magnitude (numerators.map value) ≤ 8000)
    (errors : error + numerators.length * 2 ^ (-37 : ℤ) ≤ 1) :
    Summed (numerators.foldl (lanczosStep z) state)
      (v + fractions (numerators.map value) (value z + n))
      (error + numerators.length * 2 ^ (-37 : ℤ)) (n + numerators.length) := by
  induction numerators generalizing state v error n with
  | nil =>
    rw [List.map_nil, fractions, add_zero, List.length_nil, Nat.cast_zero, zero_mul, add_zero]
    exact summed
  | cons numerator rest ih =>
    obtain ⟨numeratorFinite, constants⟩ := List.forall_mem_cons.mp constants
    rw [List.length_cons] at last errors ⊢
    rw [List.map_cons] at size ⊢
    rw [magnitude] at size
    rw [Nat.cast_add_one] at errors ⊢
    have rest_nonneg := magnitude_nonneg (rest.map value)
    have steps : (0 : ℝ) ≤ rest.length * 2 ^ (-37 : ℤ) := by positivity
    have half : 1 / 2 ≤ value z + n := by
      have : (1 : ℝ) ≤ n := by exact_mod_cast first
      linarith
    have sum_le := abs_add_le v (value numerator / (value z + n))
    have quotient_le := abs_quotient_le (v := value numerator) half
    have step := summed_step finite low summed numeratorFinite first (by omega) (by linarith)
      (by linarith)
    have whole := ih constants step (by omega) (by omega) (by linarith) (by linarith)
    have sum_eq : v + (value numerator / (value z + n) +
          fractions (rest.map value) (value z + n + 1)) =
        v + value numerator / (value z + n) +
          fractions (rest.map value) (value z + (n + 1 : ℕ)) := by
      rw [Nat.cast_add_one]
      ring_nf
    have error_eq : error + (rest.length + 1) * 2 ^ (-37 : ℤ) =
        error + 2 ^ (-37 : ℤ) + rest.length * 2 ^ (-37 : ℤ) := by ring
    rw [List.foldl_cons, fractions, sum_eq, error_eq,
      show n + (rest.length + 1) = n + 1 + rest.length by omega]
    exact whole

end Steps

/-- The integers below the numerators. -/
def lanczosFloors : List Int := [676, -1260, 771, -177, 12, -1, 0, 0]

theorem lanczosNumerators_between :
    List.Forall₂ (fun low c => LiesBetween low (low + 1) c) lanczosFloors lanczosNumerators := by
  decide +kernel

/-- Numerators between neighbouring integers are not larger than these together. -/
theorem magnitude_le {lows : List Int} {numerators : List Float}
    (between : List.Forall₂ (fun low c => LiesBetween low (low + 1) c) lows numerators) :
    magnitude (numerators.map value) ≤ ((lows.map fun low => |low| + 1).sum : ℤ) := by
  induction between with
  | nil =>
    rw [List.map_nil, magnitude, List.map_nil, List.sum_nil, Int.cast_zero]
  | @cons low numerator lows rest first _ ih =>
    obtain ⟨_, above, below⟩ := liesBetween_spec first
    rw [List.map_cons, magnitude, List.map_cons, List.sum_cons, Int.cast_add]
    refine add_le_add ?_ ih
    push_cast at below ⊢
    rw [abs_le]
    constructor
    · linarith [neg_abs_le (low : ℝ)]
    · linarith [le_abs_self (low : ℝ)]

/-- Larger numerators have a larger sum. -/
theorem fractions_mono {lows : List Int} {numerators : List Float}
    (between : List.Forall₂ (fun low c => LiesBetween low (low + 1) c) lows numerators) {t : ℝ}
    (positive : 0 < t) :
    fractions (lows.map Int.cast) t ≤ fractions (numerators.map value) t := by
  induction between generalizing t with
  | nil => exact le_rfl
  | @cons low numerator lows rest first _ ih =>
    rw [List.map_cons, fractions, List.map_cons, fractions]
    exact add_le_add (div_le_div_of_nonneg_right (liesBetween_spec first).2.1 positive.le)
      (ih (by linarith))

/-- **The partial fractions do not fall below 0**: on a common denominator, the numerator has no
negative coefficient in how far the first denominator is above one half. -/
theorem fractions_nonneg {t : ℝ} (half : 1 / 2 ≤ t) :
    0 ≤ fractions (lanczosNumerators.map value) t := by
  refine le_trans ?_ (fractions_mono lanczosNumerators_between (by linarith))
  obtain ⟨w, nonneg, rfl⟩ : ∃ w : ℝ, 0 ≤ w ∧ t = w + 1 / 2 := ⟨t - 1 / 2, by linarith, by ring⟩
  have whole : fractions (lanczosFloors.map Int.cast) (w + 1 / 2) =
      (4014099 / 32 + 1683117 / 16 * w + 144601 / 4 * w ^ 2 + 12735 / 2 * w ^ 3 +
        1147 / 2 * w ^ 4 + 21 * w ^ 5) /
        ((w + 1 / 2) * (w + 1 / 2 + 1) * (w + 1 / 2 + 1 + 1) * (w + 1 / 2 + 1 + 1 + 1) *
          (w + 1 / 2 + 1 + 1 + 1 + 1) * (w + 1 / 2 + 1 + 1 + 1 + 1 + 1)) := by
    simp only [lanczosFloors, List.map_cons, List.map_nil, fractions]
    norm_num
    field_simp
    ring
  rw [whole]
  positivity

/-- **Lanczos' sum is positive** from one half on. -/
theorem lanczosSum_positive (finite : z.isFinite = true) (low : -1 / 2 ≤ value z) :
    (lanczosSum z).isFinite = true ∧ 0 < value (lanczosSum z) := by
  have start_lies : LiesBetween 0 1 0.9999999999998099 := by decide +kernel
  obtain ⟨finite_start, _, start_le⟩ := liesBetween_spec start_lies
  have half_le : 1 / 2 ≤ value 0.9999999999998099 := by
    rw [← value_half]
    exact (le_iff isFinite_half finite_start).mp (by decide +kernel)
  have constants : ∀ c ∈ lanczosNumerators, c.isFinite = true := by decide +kernel
  have start : Summed (0.9999999999998099, 1.0) (value 0.9999999999998099) 0 1 :=
    ⟨⟨finite_start, by rw [sub_self, abs_zero]⟩, isFinite_one, by rw [value_one, Nat.cast_one]⟩
  have size : magnitude (lanczosNumerators.map value) ≤ (2905 : ℤ) :=
    magnitude_le lanczosNumerators_between
  have near := (summed_foldl finite low lanczosNumerators constants start le_rfl (by decide)
    (by rw [abs_of_nonneg (by linarith)]; push_cast at size start_le; linarith)
    (by rw [show lanczosNumerators.length = 8 from rfl]; norm_num)).near
  have terms := fractions_nonneg (t := value z + (1 : ℕ)) (by push_cast; linarith)
  obtain ⟨below, _⟩ := abs_le.mp near.close
  rw [show lanczosNumerators.length = 8 from rfl] at below
  rw [lanczosSum_eq]
  refine ⟨near.finite, ?_⟩
  norm_num at below terms
  linarith

end Sum

/-! ### The logarithm -/

section Logarithm

variable {x : Float}

/-- What is of the size of a logarithm is small beside the largest doubles. -/
theorem small_of_le {v : ℝ} (size : |v| ≤ 2 ^ (10 : ℤ)) : |v| ≤ 2 ^ (969 : ℤ) :=
  size.trans (zpow_le_zpow_right₀ (by norm_num) (by norm_num))

/-- **The two arguments next to Lanczos' sum**: a factor from 0 on, and one from 1 on whose
logarithm is not negative. -/
theorem shifted_arguments {z : Float} (finite : z.isFinite = true) (low : -1 / 2 ≤ value z) :
    ((z + 0.5).isFinite = true ∧ 0 ≤ value (z + 0.5)) ∧
      (z + 7.0 + 0.5).isFinite = true ∧ 1 ≤ value (z + 7.0 + 0.5) := by
  have half_small : |value 0.5| ≤ 2 ^ (969 : ℤ) := by
    refine small_of_le ?_
    rw [value_half]
    norm_num
  have seven : value 7.0 = 7 := by
    exact_mod_cast value_eq_of_liesBetween (n := 7) (by decide +kernel)
  have seven_small : |value 7.0| ≤ 2 ^ (969 : ℤ) := by
    refine small_of_le ?_
    rw [seven]
    norm_num
  obtain ⟨finite_factor, factor_eq⟩ := isFinite_add_of_small finite isFinite_half half_small
  obtain ⟨finite_sum, sum_eq⟩ := isFinite_add_of_small finite rfl seven_small
  obtain ⟨finite_t, t_eq⟩ := isFinite_add_of_small finite_sum isFinite_half half_small
  have one_le : 1 ≤ value (z + 7.0) := by
    rw [sum_eq, seven]
    exact le_rounded_of_onGrid onGrid_one (by linarith)
  refine ⟨⟨finite_factor, ?_⟩, finite_t, ?_⟩
  · rw [factor_eq, value_half]
    exact rounded_nonneg (by linarith)
  · rw [t_eq, value_half]
    exact le_rounded_of_onGrid onGrid_one (by linarith)

/-- **The logarithm from one half on is a number.** -/
theorem logGammaLanczos_number (finite : x.isFinite = true) (half : 1 / 2 ≤ value x) :
    NumberOrInfinity (logGammaLanczos x) := by
  obtain ⟨finite_z, z_eq⟩ := isFinite_sub_of_nonneg finite isFinite_one (by linarith)
    (by rw [value_one]; norm_num)
  unfold logGammaLanczos
  dsimp only
  generalize x - 1.0 = z at finite_z z_eq ⊢
  have low : -1 / 2 ≤ value z := by
    rw [z_eq, value_one, neg_div]
    exact le_rounded_of_onGrid onGrid_half.neg (by linarith)
  obtain ⟨⟨finite_factor, nonneg_factor⟩, finite_t, one_le⟩ := shifted_arguments finite_z low
  obtain ⟨finite_ln, _, nonneg_ln⟩ := ln_finite finite_t (by linarith)
  have constant_lies : LiesBetween 0 1 halfLnTwoPi := by decide +kernel
  obtain ⟨finite_c, nonneg_c, _⟩ := liesBetween_spec constant_lies
  obtain ⟨finite_sum, positive_sum⟩ := lanczosSum_positive finite_z low
  obtain ⟨finite_rest, small_rest, _⟩ := ln_finite finite_sum positive_sum
  refine NumberOrInfinity.add ?_ finite_rest (small_of_le small_rest)
  exact numberOrInfinity_leading finite_c finite_factor finite_ln finite_t
    (by exact_mod_cast nonneg_c) nonneg_factor (nonneg_ln one_le) (by linarith)

/-- The logarithm of the gamma function as it calls itself, with so many calls; nothing when these
are used up. -/
def logGammaWithin : Nat → Float → Option Float
  | 0, _ => none
  | calls + 1, x =>
    if x.isNaN || x ≤ 0.0 then some nan
    else if x < 0.5 then (logGammaWithin calls (x + 1.0)).map (· - ln x)
    else some (logGammaLanczos x)

/-- **A logarithm below one half** is one from one half on, less a logarithm. -/
theorem logGammaLanczos_raised (finite : x.isFinite = true) (positive : 0 < value x)
    (below : value x < 1 / 2) :
    (x + 1.0).isFinite = true ∧ 1 ≤ value (x + 1.0) ∧
      NumberOrInfinity (logGammaLanczos (x + 1.0) - ln x) := by
  obtain ⟨finite_sum, sum_eq⟩ := isFinite_add_of_small finite isFinite_one
    (small_of_le (by rw [value_one]; norm_num))
  have one_le : 1 ≤ value (x + 1.0) := by
    rw [sum_eq, value_one]
    exact le_rounded_of_onGrid onGrid_one (by linarith)
  obtain ⟨finite_ln, small, _⟩ := ln_finite finite positive
  exact ⟨finite_sum, one_le,
    (logGammaLanczos_number finite_sum (by linarith)).sub finite_ln (small_of_le small)⟩

/-- **The logarithm is a number** at all positive finite doubles, and a raised argument is not
raised again. -/
theorem logGamma_of_positive (finite : x.isFinite = true) (positive : 0 < value x) :
    NumberOrInfinity (logGamma x) ∧
      ∀ calls, logGammaWithin (calls + 2) x = some (logGamma x) := by
  have domain {y : Float} (finite : y.isFinite = true) (positive : 0 < value y) :
      ¬(y.isNaN || y ≤ 0.0) = true := by
    have above : ¬y ≤ 0.0 := by
      rw [le_iff finite isFinite_zero, value_zero]
      exact not_le.mpr positive
    rw [isNaN_of_isFinite finite, decide_eq_false above]
    exact Bool.false_ne_true
  unfold logGamma
  rw [if_neg (domain finite positive)]
  by_cases below : x < 0.5
  · have belowHalf := below
    rw [lt_iff finite isFinite_half, value_half] at belowHalf
    obtain ⟨finite_sum, one_le, number⟩ := logGammaLanczos_raised finite positive belowHalf
    have raised : ¬x + 1.0 < 0.5 := by
      rw [lt_iff finite_sum isFinite_half, value_half]
      linarith
    rw [if_pos below]
    refine ⟨number, fun calls => ?_⟩
    rw [logGammaWithin, if_neg (domain finite positive), if_pos below, logGammaWithin,
      if_neg (domain finite_sum (by linarith)), if_neg raised, Option.map_some]
    rfl
  · rw [if_neg below]
    refine ⟨logGammaLanczos_number finite ?_, fun calls => ?_⟩
    · rwa [lt_iff finite isFinite_half, value_half, not_lt] at below
    · rw [logGammaWithin, if_neg (domain finite positive), if_neg below]

/-- **The logarithm of the gamma function is a number at the positive finite doubles** and at no
others, infinity included, and it calls itself once at most. -/
theorem logGamma_numbers (x : Float) :
    ((logGamma x).isNaN = true ↔ x.isNaN = true ∨ x ≤ 0.0 ∨ x = infinity) ∧
      ((logGamma x).isFinite = true ∨ logGamma x = infinity ↔ 0.0 < x ∧ x.isFinite = true) ∧
      ∀ calls, logGammaWithin (calls + 2) x = some (logGamma x) := by
  by_cases domain : (x.isNaN || x ≤ 0.0) = true
  · have outside : x.isNaN = true ∨ x ≤ 0.0 := by
      rwa [Bool.or_eq_true, decide_eq_true_iff] at domain
    have result : logGamma x = nan := if_pos domain
    have calls (calls : Nat) : logGammaWithin (calls + 2) x = some nan := by
      rw [logGammaWithin, if_pos domain]
    rw [result]
    refine ⟨iff_of_true rfl (by tauto), iff_of_false ?_ ?_, calls⟩
    · rintro (finite | infinite)
      · exact absurd finite (by decide +kernel)
      · exact absurd (congrArg Float.isNaN infinite) (by decide +kernel)
    · rintro ⟨positive, finite⟩
      rcases outside with notANumber | le
      · rw [isNaN_of_isFinite finite] at notANumber
        exact absurd notANumber Bool.false_ne_true
      · exact not_le_of_lt positive le
  · have inside : x.isNaN = false ∧ ¬x ≤ 0.0 := by
      rwa [Bool.not_eq_true, Bool.or_eq_false_iff, decide_eq_false_iff_not] at domain
    rcases positive_or_infinity inside.1 inside.2 with ⟨finite, positive⟩ | rfl
    · obtain ⟨number, calls⟩ := logGamma_of_positive finite positive
      refine ⟨iff_of_false ?_ ?_, iff_of_true number ⟨?_, finite⟩, calls⟩
      · rw [number.isNaN]
        exact Bool.false_ne_true
      · rintro (notANumber | le | rfl)
        · rw [inside.1] at notANumber
          exact absurd notANumber Bool.false_ne_true
        · exact inside.2 le
        · exact absurd finite (by decide +kernel)
      · rwa [lt_iff isFinite_zero finite, value_zero]
    · refine ⟨by decide +kernel, by decide +kernel, fun calls => ?_⟩
      have above : ¬infinity < 0.5 := by decide +kernel
      rw [logGammaWithin, if_neg domain, if_neg above, logGamma, if_neg domain, if_neg above]

/-- Infinity is positive, but infinity is taken from infinity there. -/
theorem logGamma_infinity : 0.0 < infinity ∧ ¬(infinity.isNaN = true ∨ infinity ≤ 0.0) ∧
    (logGamma infinity).isNaN = true := by
  decide +kernel

end Logarithm

end IncompleteBeta
