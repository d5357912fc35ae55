/-
**What the short way from digits to a double comes to.**

* `isFinite_scaled`: whatever it gives is finite;
* `value_powerOfTen`: powers of ten up to `10 ^ 22` are doubles;
* **`rounds_scaled`**: where neither the word nor the power is rounded, the number is rounded
  correctly.
-/

import IncompleteBeta.Decimal.Scaling
import IncompleteBeta.Proofs.Decimal.Nearest

namespace IncompleteBeta

open Binary64

/-! ### Signs and ranges -/

section Range

variable {x : Float} {v : ℝ}

/-- A result is finite or infinite, and a number in any case. -/
theorem Binary64.Rounds.isFinite_of_isInf (rounds : Rounds x v) (inside : x.isInf = false) :
    x.isFinite = true := by
  rcases lt_or_ge |rounded v| (2 ^ (1024 : ℤ)) with range | overflow
  · exact (rounds.finite range).1
  · have infinite : x.isInf = (parts x).isInf := rfl
    rw [infinite, rounds.infinite overflow] at inside
    cases inside

theorem isInf_of_isFinite (finite : x.isFinite = true) : x.isInf = false := by
  have infinite : x.isInf = (parts x).isInf := rfl
  rw [isFinite_eq] at finite
  rw [infinite]
  generalize parts x = u at finite ⊢
  cases u with
  | notANumber => cases finite
  | infinity sign => cases finite
  | zero sign => rfl
  | finite sign mantissa exponent positive => rfl

/-- A result up to a grid point in the range is finite. -/
theorem Binary64.Rounds.isFinite_of_le {w : ℝ} (rounds : Rounds x v) (nonneg : 0 ≤ v)
    (below : v ≤ w) (grid : OnGrid w) (range : w < 2 ^ (1024 : ℤ)) :
    x.isFinite = true ∧ value x = rounded v := by
  refine rounds.finite (lt_of_le_of_lt ?_ range)
  rw [abs_of_nonneg (rounded_nonneg nonneg)]
  exact rounded_le_of_onGrid grid below

end Range

/-! ### Words and powers -/

section Words

theorem rounds_word (n : Nat) : Rounds (nearest false n 0) n := by
  have rounds := rounds_nearest false n 0
  rw [zpow_zero, mul_one] at rounds
  exact rounds

theorem zpow_lt_range {k : ℤ} (small : k < 1024) : (2 : ℝ) ^ k < 2 ^ (1024 : ℤ) :=
  zpow_lt_zpow_right₀ (by norm_num) small

/-- A word of 64 bits is rounded to a finite double. -/
theorem isFinite_word {n : Nat} (word : n < 2 ^ 64) :
    (nearest false n 0).isFinite = true ∧ 0 ≤ value (nearest false n 0) := by
  have below : (n : ℝ) ≤ 2 ^ (64 : ℤ) := by exact_mod_cast word.le
  obtain ⟨finite, value_eq⟩ := (rounds_word n).isFinite_of_le (Nat.cast_nonneg n) below
    (onGrid_zpow (by norm_num)) (zpow_lt_range (by norm_num))
  exact ⟨finite, by rw [value_eq]; exact rounded_nonneg (Nat.cast_nonneg n)⟩

/-- A word of 53 bits is a double. -/
theorem value_word {n : Nat} (short : n < 2 ^ 53) : value (nearest false n 0) = n := by
  have grid : OnGrid (n : ℝ) := ⟨n, 0, by simp, by rw [Nat.abs_cast]; exact_mod_cast short.le,
    by norm_num⟩
  have range : (n : ℝ) < 2 ^ (1024 : ℤ) := by
    have below : (n : ℝ) < 2 ^ (53 : ℤ) := by exact_mod_cast short
    exact below.trans (zpow_lt_range (by norm_num))
  rw [((rounds_word n).isFinite_of_le (Nat.cast_nonneg n) le_rfl grid range).2,
    rounded_of_onGrid grid]

variable {k : Nat}

theorem rounds_powerOfTen (k : Nat) : Rounds (powerOfTen k) (10 ^ k) := by
  have rounds := Decimal.rounds_toFloat false ⟨1, k⟩
  have value_eq : Decimal.value ⟨1, k⟩ = 10 ^ k := by
    rw [Decimal.value, Nat.cast_one, one_mul, zpow_natCast]
  rw [value_eq] at rounds
  exact rounds

/-- The powers of ten are finite doubles of at least 1. -/
theorem powerOfTen_spec (range : k ≤ maxPowerOfTen) :
    (powerOfTen k).isFinite = true ∧ 1 ≤ value (powerOfTen k) := by
  have grid : OnGrid (3 * 2 ^ (1022 : ℤ) : ℝ) := ⟨3, 1022, by norm_num, by norm_num, by norm_num⟩
  have least : (1 : ℝ) ≤ 10 ^ k := one_le_pow₀ (by norm_num)
  have most : (10 : ℝ) ^ k ≤ 3 * 2 ^ (1022 : ℤ) := by
    have below : 10 ^ maxPowerOfTen ≤ 3 * 2 ^ 1022 := by decide +kernel
    have cast : (10 : ℝ) ^ maxPowerOfTen ≤ 3 * 2 ^ 1022 := by exact_mod_cast below
    exact (pow_le_pow_right₀ (by norm_num) range).trans cast
  have inside : (3 * 2 ^ (1022 : ℤ) : ℝ) < 2 ^ (1024 : ℤ) := by
    rw [show (1024 : ℤ) = 1022 + 2 by norm_num, zpow_add₀ (by norm_num), mul_comm]
    exact mul_lt_mul_of_pos_left (by norm_num) (by positivity)
  obtain ⟨finite, value_eq⟩ :=
    (rounds_powerOfTen k).isFinite_of_le (by positivity) most grid inside
  refine ⟨finite, ?_⟩
  rw [value_eq]
  exact le_rounded_of_onGrid onGrid_one least

/-- **Powers of ten up to `10 ^ 22` are doubles.** -/
theorem value_powerOfTen (small : k ≤ 22) : value (powerOfTen k) = 10 ^ k := by
  have grid : OnGrid ((10 : ℝ) ^ k) := by
    refine ⟨5 ^ k, k, ?_, ?_, by omega⟩
    · rw [zpow_natCast]
      push_cast
      rw [← mul_pow]
      norm_num
    · rw [abs_of_nonneg (by positivity)]
      exact (pow_le_pow_right₀ (by norm_num) small).trans (by norm_num)
  have range : (10 : ℝ) ^ k < 2 ^ (1024 : ℤ) := by
    have below : (10 : ℝ) ^ k ≤ 2 ^ (80 : ℤ) :=
      (pow_le_pow_right₀ (by norm_num) small).trans (by norm_num)
    exact below.trans_lt (zpow_lt_range (by norm_num))
  rw [((rounds_powerOfTen k).isFinite_of_le (by positivity) le_rfl grid range).2,
    rounded_of_onGrid grid]

end Words

/-! ### Multiplication and division -/

section Scaling

variable {x y : Float} {k : Nat}

/-- A product that is not infinite is finite. -/
theorem isFinite_scaleUp (finite : x.isFinite = true) (scaled : scaleUp? x k = some y) :
    y.isFinite = true := by
  unfold scaleUp? at scaled
  dsimp only at scaled
  split at scaled
  next range =>
    split at scaled
    next => cases scaled
    next inside =>
      cases scaled
      exact (rounds_mul finite (powerOfTen_spec range).1).isFinite_of_isInf
        (Bool.eq_false_iff.mpr inside)
  next =>
    split at scaled
    next =>
      cases scaled
      exact finite
    next => cases scaled

/-- Division by a power of ten keeps within the range. -/
theorem isFinite_div_powerOfTen (finite : x.isFinite = true) (nonneg : 0 ≤ value x)
    (range : k ≤ maxPowerOfTen) :
    (x / powerOfTen k).isFinite = true ∧ 0 ≤ value (x / powerOfTen k) := by
  obtain ⟨powerFinite, least⟩ := powerOfTen_spec range
  have positive : 0 < value (powerOfTen k) := one_pos.trans_le least
  have grid : OnGrid (value x) := by
    rw [value, ← rounded_realOf (canonical_parts x)]
    exact rounded_onGrid _
  have inside : value x < 2 ^ (1024 : ℤ) :=
    (le_abs_self _).trans_lt (abs_realOf_lt (canonical_parts x))
  have quotientNonneg : 0 ≤ value x / value (powerOfTen k) := div_nonneg nonneg positive.le
  obtain ⟨finite, value_eq⟩ :=
    (rounds_div finite powerFinite positive.ne').isFinite_of_le quotientNonneg
    (div_le_self nonneg least) grid inside
  exact ⟨finite, by rw [value_eq]; exact rounded_nonneg quotientNonneg⟩

theorem isFinite_scaleDown (finite : x.isFinite = true) (nonneg : 0 ≤ value x) (k : Nat) :
    (scaleDown x k).isFinite = true := by
  unfold scaleDown
  split
  next range => exact (isFinite_div_powerOfTen finite nonneg range).1
  next =>
    split
    next range =>
      obtain ⟨finite, nonneg⟩ := isFinite_div_powerOfTen finite nonneg (le_refl maxPowerOfTen)
      exact (isFinite_div_powerOfTen finite nonneg (by omega)).1
    next => rfl

/-- **The short way gives finite doubles only.** -/
theorem isFinite_scaled {d : Decimal} {negative : Bool} (word : d.coefficient < 2 ^ 64)
    (scaled : d.scaled? negative = some y) : y.isFinite = true := by
  obtain ⟨finite, nonneg⟩ := isFinite_word word
  unfold Decimal.scaled? at scaled
  dsimp only at scaled
  obtain ⟨magnitude, found, signed_eq⟩ := Option.map_eq_some_iff.mp scaled
  have finite_magnitude : magnitude.isFinite = true := by
    split at found
    next => exact isFinite_scaleUp finite found
    next =>
      cases found
      exact isFinite_scaleDown finite nonneg _
  rw [← signed_eq]
  split
  next => rw [isFinite_neg, finite_magnitude]
  next => exact finite_magnitude

/-- The magnitude, where neither the word nor the power is rounded. -/
theorem rounds_magnitude {d : Decimal} (short : d.coefficient < 2 ^ 53) (down : -22 ≤ d.exponent)
    (up : d.exponent ≤ 22) :
    ∃ magnitude, (if 0 ≤ d.exponent then
        scaleUp? (nearest false d.coefficient 0) d.exponent.toNat
      else some (scaleDown (nearest false d.coefficient 0) (-d.exponent).toNat)) =
        some magnitude ∧ Rounds magnitude d.value := by
  have finite := (isFinite_word (n := d.coefficient) (by omega)).1
  have word_eq := value_word short
  split
  next whole =>
    obtain ⟨k, exponent_eq⟩ := Int.eq_ofNat_of_zero_le whole
    have range : k ≤ maxPowerOfTen := by
      unfold maxPowerOfTen
      omega
    have value_eq : d.value = d.coefficient * 10 ^ k := by
      rw [Decimal.value, exponent_eq, zpow_natCast]
    have rounds := rounds_mul finite (powerOfTen_spec range).1
    rw [word_eq, value_powerOfTen (by omega), ← value_eq] at rounds
    have below : d.value ≤ 2 ^ (133 : ℤ) := by
      have word_le : (d.coefficient : ℝ) ≤ 2 ^ 53 := by exact_mod_cast short.le
      have power_le : (10 : ℝ) ^ k ≤ 10 ^ 22 := pow_le_pow_right₀ (by norm_num) (by omega)
      rw [value_eq]
      exact (mul_le_mul word_le power_le (by positivity) (by positivity)).trans (by norm_num)
    have inside := isInf_of_isFinite (rounds.isFinite_of_le d.value_nonneg below
      (onGrid_zpow (by norm_num)) (zpow_lt_range (by norm_num))).1
    refine ⟨_, ?_, rounds⟩
    rw [exponent_eq, Int.toNat_natCast, scaleUp?, if_pos range]
    dsimp only
    rw [inside, if_neg Bool.false_ne_true]
  next part =>
    obtain ⟨k, exponent_eq⟩ : ∃ k : ℕ, -d.exponent = k := Int.eq_ofNat_of_zero_le (by omega)
    have range : k ≤ maxPowerOfTen := by
      unfold maxPowerOfTen
      omega
    have value_eq : d.value = d.coefficient / 10 ^ k := by
      rw [Decimal.value, show d.exponent = -k by omega, zpow_neg, zpow_natCast, div_eq_mul_inv]
    obtain ⟨powerFinite, least⟩ := powerOfTen_spec range
    have rounds := rounds_div finite powerFinite (one_pos.trans_le least).ne'
    rw [word_eq, value_powerOfTen (by omega), ← value_eq] at rounds
    refine ⟨_, ?_, rounds⟩
    rw [exponent_eq, Int.toNat_natCast, scaleDown, if_pos range]

/-- **Where neither the word nor the power is rounded, the number is rounded correctly.** -/
theorem rounds_scaled {d : Decimal} (negative : Bool) (short : d.coefficient < 2 ^ 53)
    (down : -22 ≤ d.exponent) (up : d.exponent ≤ 22) :
    ∃ y, d.scaled? negative = some y ∧ Rounds y (signed (signOf negative) d.value) := by
  obtain ⟨magnitude, found, rounds⟩ := rounds_magnitude short down up
  refine ⟨if negative then -magnitude else magnitude, ?_, ?_⟩
  · unfold Decimal.scaled?
    dsimp only
    rw [found]
    rfl
  · cases negative with
    | true => exact rounds.neg
    | false => exact rounds

end Scaling

end IncompleteBeta
