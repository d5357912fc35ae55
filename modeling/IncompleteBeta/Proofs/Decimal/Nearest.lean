/-
**Decimal numbers and their nearest doubles.**

* `Decimal.value`: the number that a decimal number stands for;
* **`rounds_toFloat`**: decimal numbers are rounded correctly;
* `value_reduced`, `value_exactDecimal`: trailing zeros do not count, and every double is a decimal
  number;
* **`rounds_shortest`**: the shortest digits of a double are rounded to it.
-/

import IncompleteBeta.Decimal.Shortest
import IncompleteBeta.Proofs.Binary64.Nearest
import IncompleteBeta.Proofs.Binary64.UnitInterval

namespace IncompleteBeta

open Binary64

namespace Decimal

/-- The number that a decimal number stands for. -/
noncomputable def value (d : Decimal) : ℝ := d.coefficient * 10 ^ d.exponent

theorem value_nonneg (d : Decimal) : 0 ≤ d.value := by
  unfold value
  positivity

/-! ### Rounding -/

theorem two_pow_le_ten_pow {m n : ℕ} (le : 2 ^ m ≤ 10 ^ n) : (2 : ℝ) ^ m ≤ 10 ^ n := by
  exact_mod_cast le

section Rounding

variable (negative : Bool) (d : Decimal)

/-- A decimal number whose leading digit is too far behind the point is rounded to 0. -/
theorem rounded_value_of_small (small : d.exponent + d.coefficient.log2 + 1 ≤ -330) :
    rounded d.value = 0 := by
  have digits : (d.coefficient : ℝ) ≤ 10 ^ (d.coefficient.log2 + 1) := by
    have below : d.coefficient ≤ 2 ^ (d.coefficient.log2 + 1) := Nat.lt_log2_self.le
    exact_mod_cast below.trans (Nat.pow_le_pow_left (by norm_num) _)
  have size : d.value ≤ 2 ^ (-1075 : ℤ) :=
    calc d.value ≤ 10 ^ (d.coefficient.log2 + 1) * 10 ^ d.exponent :=
          mul_le_mul_of_nonneg_right digits (by positivity)
      _ = 10 ^ ((d.coefficient.log2 + 1 : ℕ) + d.exponent : ℤ) := by
          rw [zpow_add₀ (by norm_num), zpow_natCast]
      _ ≤ 10 ^ (-330 : ℤ) := zpow_le_zpow_right₀ (by norm_num) (by push_cast; omega)
      _ ≤ 2 ^ (-1075 : ℤ) := by
          rw [zpow_neg, zpow_neg]
          exact inv_anti₀ (by positivity)
            (two_pow_le_ten_pow (m := 1075) (n := 330) (by decide +kernel))
  exact le_antisymm (rounded_nonpos_iff.mpr size) (rounded_nonneg d.value_nonneg)

/-- A decimal number with a large exponent is rounded beyond the range. -/
theorem le_rounded_value_of_large (nonzero : d.coefficient ≠ 0) (large : 310 ≤ d.exponent) :
    2 ^ (1024 : ℤ) ≤ rounded d.value := by
  refine le_rounded_of_onGrid (onGrid_zpow (by norm_num)) ?_
  have digit : (1 : ℝ) ≤ d.coefficient := by exact_mod_cast Nat.one_le_iff_ne_zero.mpr nonzero
  calc (2 : ℝ) ^ (1024 : ℤ) ≤ 10 ^ (310 : ℤ) :=
        two_pow_le_ten_pow (m := 1024) (n := 310) (by decide +kernel)
    _ ≤ 10 ^ d.exponent := zpow_le_zpow_right₀ (by norm_num) large
    _ ≤ d.value := le_mul_of_one_le_left (by positivity) digit

theorem rounds_zero {v : ℝ} (vanishes : rounded v = 0) (nonneg : 0 ≤ v) :
    Rounds (nearest negative 0 0) (signed (signOf negative) v) := by
  rw [nearest_eq, magnitudeBits, if_pos rfl, ofBits_eq, unpack_bitsOf_zero]
  exact rounds_pack nonneg (.zero vanishes)

/-- **Decimal numbers are rounded correctly.** -/
theorem rounds_toFloat : Rounds (d.toFloat negative) (signed (signOf negative) d.value) := by
  unfold toFloat
  split
  next zero =>
    refine rounds_zero negative ?_ d.value_nonneg
    rw [value, zero, Nat.cast_zero, zero_mul, rounded_zero]
  next nonzero =>
    split
    next large =>
      refine rounds_infinity d.value_nonneg (d.le_rounded_value_of_large nonzero large) ?_
      cases negative <;> rfl
    next =>
      split
      next small => exact rounds_zero negative (d.rounded_value_of_small small) d.value_nonneg
      next =>
        split
        next whole =>
          have rounds := rounds_nearestRatio negative
            (d.coefficient * Nat.pow 10 d.exponent.toNat) one_pos
          have value_eq : d.value =
              ((d.coefficient * Nat.pow 10 d.exponent.toNat : ℕ) : ℝ) / ((1 : ℕ) : ℝ) := by
            rw [value, ← Int.toNat_of_nonneg whole, zpow_natCast, Int.toNat_natCast, Nat.pow_eq]
            push_cast
            ring
          rw [value_eq]
          exact rounds
        next part =>
          have rounds := rounds_nearestRatio negative d.coefficient
            (d := Nat.pow 10 (-d.exponent).toNat) (Nat.pow_pos (by norm_num))
          have value_eq : d.value =
              d.coefficient / ((Nat.pow 10 (-d.exponent).toNat : ℕ) : ℝ) := by
            obtain ⟨count, count_eq⟩ : ∃ count : ℕ, -d.exponent = count :=
              Int.eq_ofNat_of_zero_le (by omega)
            rw [value, count_eq, Int.toNat_natCast, show d.exponent = -count by omega, zpow_neg,
              zpow_natCast, Nat.pow_eq]
            push_cast
            rfl
          rw [value_eq]
          exact rounds

end Rounding

/-! ### One number in several forms -/

theorem value_dropZeros (count : Nat) (d : Decimal) : (d.dropZeros count).value = d.value := by
  induction count generalizing d with
  | zero => rfl
  | succ count ih =>
    unfold dropZeros
    split
    next ends =>
      rw [ih]
      have digits : (d.coefficient : ℝ) = 10 * ((d.coefficient / 10 : ℕ) : ℝ) := by
        exact_mod_cast (Nat.mul_div_cancel' (Nat.dvd_of_mod_eq_zero ends)).symm
      rw [value, value, digits, zpow_add_one₀ (by norm_num)]
      ring
    next => rfl

/-- Trailing zeros do not count. -/
theorem value_reduced (d : Decimal) : d.reduced.value = d.value := by
  unfold reduced
  split
  next zero => rw [value, value, zero, Nat.cast_zero, zero_mul, zero_mul]
  next => exact value_dropZeros _ d

end Decimal

/-! ### Shortest digits -/

section Doubles

variable {x : Float}

/-- The magnitude of a finite double is its decimal number with all the digits. -/
theorem value_exactDecimal (finite : x.isFinite = true) : (exactDecimal x).value = |value x| := by
  rw [value_eq_exact finite, abs_signed, abs_of_nonneg (by positivity), exactDecimal]
  generalize (exact x).mantissa.natAbs = magnitude
  split
  next whole =>
    rw [Decimal.value, ← Int.toNat_of_nonneg whole, Int.toNat_natCast, zpow_natCast, zpow_zero,
      Nat.shiftLeft_eq]
    push_cast
    ring
  next part =>
    obtain ⟨count, count_eq⟩ : ∃ count : ℕ, -(exact x).exponent = count :=
      Int.eq_ofNat_of_zero_le (by omega)
    have exponent_eq : (exact x).exponent = -count := by omega
    have ten : (10 : ℝ) ^ (-count : ℤ) = 2 ^ (-count : ℤ) * 5 ^ (-count : ℤ) := by
      rw [← mul_zpow]
      norm_num
    rw [Decimal.value, count_eq, exponent_eq, Int.toNat_natCast, ten, Nat.pow_eq, zpow_neg,
      zpow_neg, zpow_natCast, zpow_natCast]
    push_cast
    field_simp

/-- What the search finds reads back. -/
theorem toFloat_shortestFrom {tie : Tie} {magnitude : Float} {n d : Nat} {leading : Int}
    {attempts digits : Nat} {found : Decimal}
    (search : shortestFrom tie magnitude n d leading attempts digits = some found) :
    (found.toFloat false == magnitude) = true := by
  induction attempts generalizing digits with
  | zero => cases search
  | succ attempts ih =>
    unfold shortestFrom at search
    split at search
    next candidate first =>
      cases search
      have reads := List.find?_some first
      exact reads
    next => exact ih search

/-- **The shortest digits of a double are rounded to it.** -/
theorem rounded_shortest (tie : Tie) (finite : x.isFinite = true) :
    rounded (shortestDecimal tie x).value = |value x| := by
  have finite_abs : x.abs.isFinite = true := by rw [isFinite_abs, finite]
  unfold shortestDecimal
  split
  next zero =>
    rw [(beq_iff finite isFinite_zero).mp zero, value_zero, abs_zero, Decimal.value, Nat.cast_zero,
      zero_mul, rounded_zero]
  next =>
    dsimp only
    rw [Decimal.value_reduced, ← value_abs]
    generalize search : shortestFrom tie x.abs _ _ _ 17 1 = found
    cases found with
    | none =>
      rw [Option.getD_none, value_exactDecimal finite, ← value_abs]
      exact rounded_realOf (canonical_parts x.abs)
    | some found =>
      have same := toFloat_shortestFrom search
      have rounds : Rounds (found.toFloat false) found.value := found.rounds_toFloat false
      rw [Option.getD_some]
      rcases lt_or_ge |rounded found.value| (2 ^ (1024 : ℤ)) with range | overflow
      · obtain ⟨finite_x, value_eq⟩ := rounds.finite range
        rw [← value_eq]
        exact (beq_iff finite_x finite_abs).mp same
      · rw [beq_iff_eq_eq, rounds.infinite overflow, if_neg found.value_nonneg.not_gt] at same
        rw [isFinite_eq] at finite_abs
        generalize parts x.abs = u at same finite_abs
        cases u with
        | notANumber => cases finite_abs
        | infinity sign => cases finite_abs
        | zero sign => cases same
        | finite sign mantissa exponent positive => cases sign <;> cases same

end Doubles

end IncompleteBeta
