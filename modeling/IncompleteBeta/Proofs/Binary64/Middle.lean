/-
**Where the middles of brackets lie.**

The arithmetic middle of two doubles of the unit interval, the geometric one of two that are far
apart, and the eighth of one stay between them, although each of their operations rounds. The
geometric middle can only fall below the normal range when the product under its root vanishes.

* `rounded_le_two_mul`, `rounded_eq_zero_or_le`: rounding changes a number by a factor of 2 at most,
  or to 0;
* `zpow_le_rounded_iff`: what is rounded to at least a power of two;
* `abs_rounded_sub_le_mul`: rounding moves a number by a small part of itself;
* `eighth_between`, `arithmetic_between`, **`geometric_between`**: the middles lie between;
* `eighth_lt`, `geometric_strictly_between`, **`arithmetic_strictly_between`**: they lie strictly
  between, in the normal range and while the ends are apart;
* **`geometric_tiny_iff`**: when the geometric one is below the normal range;
* `last_of_arithmetic`: the arithmetic one is only rounded to 1 from the last double below 1 on.
-/

import IncompleteBeta.Proofs.Binary64.Fields
import IncompleteBeta.Proofs.Binary64.UnitInterval

namespace IncompleteBeta.Binary64

/-! ### Factors of rounding -/

section Factors

variable {v : ℝ}

/-- **Rounding at most doubles a number.** -/
theorem rounded_le_two_mul (nonneg : 0 ≤ v) : rounded v ≤ 2 * v := by
  have scale : (0 : ℝ) < 2 ^ quantum v := by positivity
  have scaled : 0 ≤ v / 2 ^ quantum v := by positivity
  have close := abs_le.mp (nearestEven_roundEven (v / 2 ^ quantum v)).abs_sub_le
  have doubled : (roundEven (v / 2 ^ quantum v) : ℝ) ≤ 2 * (v / 2 ^ quantum v) := by
    rcases le_or_gt (roundEven (v / 2 ^ quantum v)) 0 with none | some
    · have none : (roundEven (v / 2 ^ quantum v) : ℝ) ≤ 0 := by exact_mod_cast none
      linarith
    · have some : (1 : ℝ) ≤ roundEven (v / 2 ^ quantum v) := by exact_mod_cast some
      linarith
  calc rounded v ≤ 2 * (v / 2 ^ quantum v) * 2 ^ quantum v :=
        mul_le_mul_of_nonneg_right doubled scale.le
    _ = 2 * v := by rw [mul_assoc, div_mul_cancel₀ _ scale.ne']

/-- **Rounding at most halves a number**, unless it leaves nothing of it. -/
theorem rounded_eq_zero_or_le (nonneg : 0 ≤ v) : rounded v = 0 ∨ v ≤ 2 * rounded v := by
  have scale : (0 : ℝ) < 2 ^ quantum v := by positivity
  have scaled : 0 ≤ v / 2 ^ quantum v := by positivity
  have close := abs_le.mp (nearestEven_roundEven (v / 2 ^ quantum v)).abs_sub_le
  rcases le_or_gt (roundEven (v / 2 ^ quantum v)) 0 with none | some
  · have above := rounded_nonneg nonneg
    have none : (roundEven (v / 2 ^ quantum v) : ℝ) ≤ 0 := by exact_mod_cast none
    exact Or.inl (le_antisymm (mul_nonpos_of_nonpos_of_nonneg none scale.le) above)
  · have some : (1 : ℝ) ≤ roundEven (v / 2 ^ quantum v) := by exact_mod_cast some
    refine Or.inr ?_
    calc v = v / 2 ^ quantum v * 2 ^ quantum v := (div_mul_cancel₀ _ scale.ne').symm
      _ ≤ 2 * roundEven (v / 2 ^ quantum v) * 2 ^ quantum v :=
        mul_le_mul_of_nonneg_right (by linarith) scale.le
      _ = 2 * rounded v := mul_assoc _ _ _

/-- What is rounded to at least a power of two. -/
theorem zpow_le_rounded_iff {k : ℤ} (least : -1021 ≤ k) :
    2 ^ k ≤ rounded v ↔ 2 ^ k - 2 ^ (k - 54) ≤ v := by
  obtain ⟨q, rfl⟩ : ∃ q, k = q + 53 := ⟨k - 53, by ring⟩
  have scale : (0 : ℝ) < 2 ^ q := by positivity
  have power : (2 : ℝ) ^ (q + 53) = 2 ^ 53 * 2 ^ q := by
    rw [zpow_add₀ (by norm_num), mul_comm]
    norm_num
  have lower : (2 : ℝ) ^ (q + 52) = 2 ^ 52 * 2 ^ q := by
    rw [zpow_add₀ (by norm_num), mul_comm]
    norm_num
  have half : (2 : ℝ) ^ (q + 53 - 54) = 1 / 2 * 2 ^ q := by
    rw [show q + 53 - 54 = q - 1 by ring, zpow_sub₀ (by norm_num), zpow_one]
    ring
  have opposite := rounded_le_even_iff (v := -v) (m := -2 ^ 53) (q := q)
    (Int.even_pow.mpr ⟨even_two, by norm_num⟩).neg (by norm_num) (by omega) ?_
  · rw [show ((-2 ^ 53 : ℤ) : ℝ) = -2 ^ 53 by norm_num] at opposite
    rw [half, power, ← neg_le_neg_iff, ← rounded_neg, ← neg_mul, opposite]
    constructor
    · intro below
      linarith
    · intro above
      linarith
  · intro w above below
    push_cast at above below
    have negative : w < 0 := by nlinarith
    refine quantum_eq ?_ ?_ (by omega)
    · rw [abs_of_neg negative, lower]
      nlinarith
    · rw [abs_of_neg negative, power]
      linarith

/-- **Rounding moves by at most half a unit of the last digit**, or half the least spacing. -/
theorem abs_rounded_sub_le_mul (v : ℝ) :
    |rounded v - v| ≤ 2 ^ (-53 : ℤ) * |v| + 2 ^ (-1075 : ℤ) := by
  have close := abs_rounded_sub_le v
  have least : (2 : ℝ) ^ (-1074 : ℤ) / 2 = 2 ^ (-1075 : ℤ) := by
    rw [show (-1075 : ℤ) = -1074 - 1 by norm_num, zpow_sub₀ (by norm_num), zpow_one]
  have nonneg : 0 ≤ 2 ^ (-53 : ℤ) * |v| := by positivity
  have positive : (0 : ℝ) < 2 ^ (-1075 : ℤ) := by positivity
  rcases eq_or_ne v 0 with rfl | nonzero
  · rw [rounded_zero, sub_self, abs_zero]
    positivity
  rcases (quantum_ge v).eq_or_lt with same | more
  · rw [← same, least] at close
    linarith
  · have above := le_abs_of_quantum nonzero more
    have power : (2 : ℝ) ^ quantum v / 2 = 2 ^ (-53 : ℤ) * 2 ^ (quantum v + 52) := by
      rw [← zpow_add₀ (by norm_num), show (-53 : ℤ) + (quantum v + 52) = quantum v - 1 by ring,
        zpow_sub₀ (by norm_num), zpow_one]
    have scale : (0 : ℝ) < 2 ^ (-53 : ℤ) := by positivity
    rw [power] at close
    nlinarith

end Factors

/-! ### Middles -/

section Middles

variable {x y : Float}

theorem onGrid_value (x : Float) : OnGrid (value x) := by
  have fixed : rounded (value x) = value x := rounded_realOf (canonical_parts x)
  rw [← fixed]
  exact rounded_onGrid (value x)

theorem isFinite_minPositive : minPositive.isFinite = true := by decide +kernel

theorem value_minPositive : value minPositive = 2 ^ (-1022 : ℤ) := by
  have sign : signBit minPositive = false := by decide +kernel
  have mantissa : (exact minPositive).mantissa.natAbs = 2 ^ 52 := by decide +kernel
  have exponent : (exact minPositive).exponent = -1074 := by decide +kernel
  rw [value_eq_exact isFinite_minPositive, sign, mantissa, exponent]
  show ((2 ^ 52 : ℕ) : ℝ) * 2 ^ (-1074 : ℤ) = 2 ^ (-1022 : ℤ)
  rw [show (-1022 : ℤ) = 52 + -1074 by norm_num, zpow_add₀ (by norm_num)]
  norm_num

/-- The last double below 1. -/
theorem value_one_sub_half_epsilon : value (1.0 - epsilon / 2.0) = 1 - 2 ^ (-53 : ℤ) := by
  have sign : signBit (1.0 - epsilon / 2.0) = false := by decide +kernel
  have mantissa : (exact (1.0 - epsilon / 2.0)).mantissa.natAbs = 2 ^ 53 - 1 := by decide +kernel
  have exponent : (exact (1.0 - epsilon / 2.0)).exponent = -53 := by decide +kernel
  rw [value_eq_exact (by decide +kernel), sign, mantissa, exponent]
  show ((2 ^ 53 - 1 : ℕ) : ℝ) * 2 ^ (-53 : ℤ) = 1 - 2 ^ (-53 : ℤ)
  norm_num

theorem value_eighth (unit : InUnit y) : value (y / 8.0) = rounded (value y / 8) := by
  obtain ⟨finite, nonneg, le_one⟩ := inUnit_iff.mp unit
  have rounds := rounds_div finite isFinite_eight (by norm_num)
  rw [value_eight] at rounds
  exact (finite_of_rounds rounds (by linarith) (by linarith)).2.1

theorem eighth_between (unit : InUnit y) : 0 ≤ value (y / 8.0) ∧ value (y / 8.0) ≤ value y := by
  obtain ⟨_, nonneg, _⟩ := inUnit_iff.mp unit
  rw [value_eighth unit]
  exact ⟨rounded_nonneg (by linarith), rounded_le_of_onGrid (onGrid_value y) (by linarith)⟩

theorem onGrid_half : OnGrid (1 / 2) := ⟨1, -1, by norm_num, by norm_num, by norm_num⟩

theorem eighth_lt_one (unit : InUnit y) : value (y / 8.0) < 1 := by
  obtain ⟨_, _, le_one⟩ := inUnit_iff.mp unit
  rw [value_eighth unit]
  exact (rounded_le_of_onGrid onGrid_half (by linarith)).trans_lt (by norm_num)

/-- Twice a double is a double, if it is not too large. -/
theorem onGrid_two_mul {v : ℝ} (grid : OnGrid v) : OnGrid (2 * v) := by
  obtain ⟨m, e, rfl, digits, least⟩ := grid
  refine ⟨m, e + 1, ?_, digits, by omega⟩
  rw [zpow_add₀ (by norm_num), zpow_one]
  ring

theorem value_arithmetic (unit : InUnit x) (otherUnit : InUnit y) :
    value (0.5 * (x + y)) = rounded (1 / 2 * rounded (value x + value y)) := by
  obtain ⟨finite, nonneg, le_one⟩ := inUnit_iff.mp unit
  obtain ⟨otherFinite, otherNonneg, other_le_one⟩ := inUnit_iff.mp otherUnit
  obtain ⟨finite, value_eq, nonneg, le_two⟩ :=
    finite_of_rounds (rounds_add finite otherFinite) (by linarith) (by linarith)
  have rounds := rounds_mul isFinite_half finite
  rw [value_half, value_eq] at rounds
  rw [value_eq] at nonneg le_two
  obtain ⟨_, value_eq, _⟩ := finite_of_rounds rounds (by linarith) (by linarith)
  exact value_eq

/-- **The arithmetic middle lies between.** -/
theorem arithmetic_between (unit : InUnit x) (otherUnit : InUnit y) (le : value x ≤ value y) :
    value x ≤ value (0.5 * (x + y)) ∧ value (0.5 * (x + y)) ≤ value y := by
  have above : 2 * value x ≤ rounded (value x + value y) :=
    le_rounded_of_onGrid (onGrid_two_mul (onGrid_value x)) (by linarith)
  have below : rounded (value x + value y) ≤ 2 * value y :=
    rounded_le_of_onGrid (onGrid_two_mul (onGrid_value y)) (by linarith)
  rw [value_arithmetic unit otherUnit]
  exact ⟨le_rounded_of_onGrid (onGrid_value x) (by linarith),
    rounded_le_of_onGrid (onGrid_value y) (by linarith)⟩

/-- The arithmetic middle below 1 is only rounded to 1 when its lower end is the last double. -/
theorem last_of_arithmetic (unit : InUnit x) (otherUnit : InUnit y)
    (one : 1 ≤ value (0.5 * (x + y))) : 1 - 2 ^ (-53 : ℤ) ≤ value x := by
  obtain ⟨_, _, le_one⟩ := inUnit_iff.mp otherUnit
  rw [value_arithmetic unit otherUnit, ← zpow_zero (2 : ℝ),
    zpow_le_rounded_iff (by norm_num)] at one
  have sum : (2 : ℝ) ^ (1 : ℤ) ≤ rounded (value x + value y) := by
    rw [← rounded_of_onGrid (rounded_onGrid (value x + value y)), zpow_le_rounded_iff (by norm_num)]
    norm_num at one ⊢
    linarith
  rw [zpow_le_rounded_iff (by norm_num), zpow_one] at sum
  norm_num at sum ⊢
  linarith

/-- Only 1 has no complement at all. -/
theorem value_eq_one_of_complement (unit : InUnit x) (zero : value (1.0 - x) = 0) :
    value x = 1 := by
  obtain ⟨finite, nonneg, le_one⟩ := inUnit_iff.mp unit
  have rounds := rounds_sub isFinite_one finite
  rw [value_one] at rounds
  obtain ⟨_, value_eq, _⟩ := finite_of_rounds rounds (by linarith) (by linarith)
  rw [value_eq] at zero
  have close : 1 - value x ≤ 2 ^ (-1075 : ℤ) := rounded_nonpos_iff.mp zero.le
  have one : (2 : ℝ) ^ (0 : ℤ) ≤ rounded (value x) := by
    rw [zpow_le_rounded_iff (by norm_num), zpow_zero]
    have tiny : (2 : ℝ) ^ (-1075 : ℤ) ≤ 2 ^ (0 - 54 : ℤ) :=
      zpow_le_zpow_right₀ (by norm_num) (by norm_num)
    linarith
  rw [rounded_of_onGrid (onGrid_value x), zpow_zero] at one
  exact le_antisymm le_one one

/-- What is far below a double on the doubles is so on the real numbers. -/
theorem sixteen_mul_lt (unit : InUnit x) (otherUnit : InUnit y) (wide : 16.0 * x < y) :
    16 * value x < value y := by
  obtain ⟨finite, nonneg, le_one⟩ := inUnit_iff.mp unit
  have value_sixteen : value 16.0 = 16 := by
    have parts_eq : parts 16.0 = .finite .positive (2 ^ 52) (-48) (by norm_num) := rfl
    rw [value, parts_eq]
    show ((2 ^ 52 : ℕ) : ℝ) * 2 ^ (-48 : ℤ) = 16
    norm_num
  have rounds := rounds_mul (show (16.0 : Float).isFinite = true by rfl) finite
  rw [value_sixteen] at rounds
  have grid : OnGrid (2 ^ (4 : ℤ)) := onGrid_zpow (by norm_num)
  have below : rounded (16 * value x) ≤ 2 ^ (4 : ℤ) :=
    rounded_le_of_onGrid grid (by norm_num; linarith)
  obtain ⟨otherFinite, value_eq⟩ := rounds.finite (by
    rw [abs_of_nonneg (rounded_nonneg (by linarith))]
    exact below.trans_lt (zpow_lt_zpow_right₀ (by norm_num) (by norm_num)))
  rw [lt_iff otherFinite otherUnit.isFinite, value_eq] at wide
  refine lt_of_not_ge fun close => ?_
  exact absurd (le_rounded_of_onGrid (onGrid_value y) close) (not_le.mpr wide)

theorem value_geometric (unit : InUnit x) (otherUnit : InUnit y) :
    (x * y).isFinite = true ∧ value (x * y) = rounded (value x * value y) ∧
      value (x * y).sqrt = rounded (Real.sqrt (rounded (value x * value y))) := by
  obtain ⟨finite, nonneg, le_one⟩ := inUnit_iff.mp unit
  obtain ⟨otherFinite, otherNonneg, other_le_one⟩ := inUnit_iff.mp otherUnit
  have product : value x * value y ≤ 1 := mul_le_one₀ le_one otherNonneg other_le_one
  obtain ⟨finite, value_eq, above, _⟩ := finite_of_rounds (rounds_mul finite otherFinite)
    (mul_nonneg nonneg otherNonneg) (by linarith)
  have bounded : rounded (value x * value y) ≤ 1 := rounded_le_of_onGrid onGrid_one product
  have rounds := rounds_sqrt finite above
  rw [value_eq] at rounds
  have root : Real.sqrt (rounded (value x * value y)) ≤ 1 := Real.sqrt_le_one.mpr bounded
  obtain ⟨_, other_value_eq, _⟩ := finite_of_rounds rounds (Real.sqrt_nonneg _) (by linarith)
  exact ⟨finite, value_eq, other_value_eq⟩

/-- **The geometric middle lies between ends that are far apart**, if the product under the root
does not vanish. -/
theorem geometric_between (unit : InUnit x) (otherUnit : InUnit y) (wide : 16 * value x < value y)
    (remains : rounded (value x * value y) ≠ 0) :
    value x ≤ value (x * y).sqrt ∧ value (x * y).sqrt ≤ value y := by
  obtain ⟨_, nonneg, _⟩ := inUnit_iff.mp unit
  obtain ⟨_, otherNonneg, _⟩ := inUnit_iff.mp otherUnit
  have product : 0 ≤ value x * value y := mul_nonneg nonneg otherNonneg
  have more := (rounded_eq_zero_or_le product).resolve_left remains
  have less := rounded_le_two_mul product
  rw [(value_geometric unit otherUnit).2.2]
  constructor
  · refine le_rounded_of_onGrid (onGrid_value x) (Real.le_sqrt_of_sq_le ?_)
    nlinarith
  · refine rounded_le_of_onGrid (onGrid_value y) ((Real.sqrt_le_left otherNonneg).mpr ?_)
    nlinarith

theorem geometric_lt_one (unit : InUnit x) (otherUnit : InUnit y) (wide : 16 * value x < value y) :
    value (x * y).sqrt < 1 := by
  obtain ⟨_, nonneg, _⟩ := inUnit_iff.mp unit
  obtain ⟨_, otherNonneg, other_le_one⟩ := inUnit_iff.mp otherUnit
  have less := rounded_le_two_mul (mul_nonneg nonneg otherNonneg)
  rw [(value_geometric unit otherUnit).2.2]
  refine (rounded_le_of_onGrid onGrid_half ?_).trans_lt (by norm_num)
  refine (Real.sqrt_le_left (by norm_num)).mpr ?_
  nlinarith

/-- **The geometric middle is below the normal range only if the product under the root
vanishes.** -/
theorem geometric_tiny_iff (unit : InUnit x) (otherUnit : InUnit y) :
    (x * y).sqrt < minPositive ↔ (x * y == 0.0) = true := by
  obtain ⟨_, nonneg, _⟩ := inUnit_iff.mp unit
  obtain ⟨_, otherNonneg, _⟩ := inUnit_iff.mp otherUnit
  obtain ⟨finite, value_eq, root_eq⟩ := value_geometric unit otherUnit
  have product : 0 ≤ value x * value y := mul_nonneg nonneg otherNonneg
  rw [lt_iff (inUnit_geometric unit otherUnit).isFinite isFinite_minPositive,
    beq_iff finite isFinite_zero, value_zero, value_minPositive, root_eq, value_eq]
  constructor
  · intro tiny
    by_contra remains
    have more := (rounded_eq_zero_or_le product).resolve_left remains
    have positive : 0 < rounded (value x * value y) :=
      lt_of_le_of_ne (rounded_nonneg product) (Ne.symm remains)
    have large : (2 : ℝ) ^ (-1075 : ℤ) < value x * value y :=
      lt_of_not_ge fun small => absurd (rounded_nonpos_iff.mpr small) (not_le.mpr positive)
    refine absurd (le_rounded_of_onGrid (onGrid_zpow (by norm_num)) ?_) (not_le.mpr tiny)
    refine Real.le_sqrt_of_sq_le ?_
    calc ((2 : ℝ) ^ (-1022 : ℤ)) ^ 2 = 2 ^ (-2044 : ℤ) := by
          rw [← zpow_natCast, ← zpow_mul]
          norm_num
      _ ≤ 2 ^ (-1076 : ℤ) := zpow_le_zpow_right₀ (by norm_num) (by norm_num)
      _ = 2 ^ (-1075 : ℤ) / 2 := by
          rw [show (-1076 : ℤ) = -1075 - 1 by norm_num, zpow_sub₀ (by norm_num), zpow_one]
      _ ≤ rounded (value x * value y) := by linarith
  · intro vanishes
    rw [vanishes, Real.sqrt_zero, rounded_zero]
    positivity

theorem eighth_lt (unit : InUnit y) (positive : 0 < value y) : value (y / 8.0) < value y := by
  rw [value_eighth unit]
  have less := rounded_le_two_mul (show 0 ≤ value y / 8 by linarith)
  linarith

/-- **The geometric middle lies strictly between ends that are far apart**, if the product under the
root does not vanish: what the roundings move is less than what the ends are apart. -/
theorem geometric_strictly_between (unit : InUnit x) (otherUnit : InUnit y)
    (wide : 16 * value x < value y) (remains : rounded (value x * value y) ≠ 0) :
    value x < value (x * y).sqrt ∧ value (x * y).sqrt < value y := by
  obtain ⟨_, nonneg, _⟩ := inUnit_iff.mp unit
  obtain ⟨_, otherNonneg, _⟩ := inUnit_iff.mp otherUnit
  have product : 0 ≤ value x * value y := mul_nonneg nonneg otherNonneg
  have more := (rounded_eq_zero_or_le product).resolve_left remains
  have less := rounded_le_two_mul product
  have positive : 0 < value x := by
    refine lt_of_le_of_ne nonneg fun zero => remains ?_
    rw [← zero, zero_mul, rounded_zero]
  rw [(value_geometric unit otherUnit).2.2]
  constructor
  · have above : 2 * value x ≤ rounded (Real.sqrt (rounded (value x * value y))) := by
      refine le_rounded_of_onGrid (onGrid_two_mul (onGrid_value x)) (Real.le_sqrt_of_sq_le ?_)
      nlinarith
    linarith
  · have below : Real.sqrt (rounded (value x * value y)) ≤ value y * (3 / 8) := by
      refine (Real.sqrt_le_left (by linarith)).mpr ?_
      nlinarith
    have doubled := rounded_le_two_mul (Real.sqrt_nonneg (rounded (value x * value y)))
    linarith

/-- **The arithmetic middle lies strictly between** ends of which the upper one is in the normal
range, and that are further apart than a few of its last digits. -/
theorem arithmetic_strictly_between (unit : InUnit x) (otherUnit : InUnit y)
    (normal : 2 ^ (-1022 : ℤ) ≤ value y) (apart : 2 ^ (-50 : ℤ) * value y < value y - value x) :
    value x < value (0.5 * (x + y)) ∧ value (0.5 * (x + y)) < value y := by
  obtain ⟨_, nonneg, _⟩ := inUnit_iff.mp unit
  obtain ⟨_, otherNonneg, _⟩ := inUnit_iff.mp otherUnit
  have less : value x < value y := by
    have : 0 ≤ 2 ^ (-50 : ℤ) * value y := by positivity
    linarith
  have sum_le : rounded (value x + value y) ≤ 2 * value y :=
    rounded_le_of_onGrid (onGrid_two_mul (onGrid_value y)) (by linarith)
  have sum_nonneg : 0 ≤ rounded (value x + value y) := rounded_nonneg (by linarith)
  have first := abs_le.mp (abs_rounded_sub_le_mul (value x + value y))
  have second := abs_le.mp (abs_rounded_sub_le_mul (1 / 2 * rounded (value x + value y)))
  rw [abs_of_nonneg (by linarith)] at first
  rw [abs_of_nonneg (by linarith)] at second
  -- Two roundings move the middle by less than half of what the ends are apart.
  have least : (2 : ℝ) ^ (-1075 : ℤ) ≤ 2 ^ (-53 : ℤ) * value y := by
    calc (2 : ℝ) ^ (-1075 : ℤ) = 2 ^ (-53 : ℤ) * 2 ^ (-1022 : ℤ) := by
          rw [← zpow_add₀ (by norm_num)]
          norm_num
      _ ≤ 2 ^ (-53 : ℤ) * value y := mul_le_mul_of_nonneg_left normal (by positivity)
  have power : (2 : ℝ) ^ (-50 : ℤ) = 8 * 2 ^ (-53 : ℤ) := by norm_num
  have scale : (0 : ℝ) < 2 ^ (-53 : ℤ) := by positivity
  have positive : 0 < 2 ^ (-53 : ℤ) * value y := mul_pos scale (by linarith)
  have sum_error : 2 ^ (-53 : ℤ) * (value x + value y) ≤ 2 * (2 ^ (-53 : ℤ) * value y) := by
    nlinarith
  have half_error : 2 ^ (-53 : ℤ) * (1 / 2 * rounded (value x + value y)) ≤
      2 ^ (-53 : ℤ) * value y := by nlinarith
  rw [power, mul_assoc] at apart
  rw [value_arithmetic unit otherUnit]
  generalize (2 : ℝ) ^ (-53 : ℤ) * value y = u at *
  constructor <;> linarith

end Middles

end IncompleteBeta.Binary64
