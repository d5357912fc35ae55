/-
**Doubles of the unit interval.**

* `InUnit`: a double that is a number of the closed unit interval;
* `inUnit_iff`: these are the finite doubles whose numbers lie there;
* **`inUnit_complement`**, `inUnit_geometric`, `inUnit_arithmetic`, `inUnit_eighth`: complements,
  both means and eighths stay there;
* **`abs_complement_error`**: a number and its complement add up to 1, but for `2 ^ (-54)`;
* `rounded_le_zpow_iff`, `rounded_nonneg_iff`: what is rounded to at most a power of two, and what
  is rounded to 0 or more;
* **`inUnit_complement_iff`**, **`inUnit_mul_iff`**: which complements and products of doubles lie
  there.
-/

import IncompleteBeta.Proofs.Binary64.Arithmetic

namespace IncompleteBeta.Binary64

open Float.Model (UnpackedFloat)
open Float.Model.UnpackedFloat (pack unpack)

/-! ### Constants -/

section Constants

theorem parts_zero : parts 0.0 = .zero .positive := rfl

theorem parts_half : parts 0.5 = .finite .positive (2 ^ 52) (-53) (by norm_num) := rfl

theorem parts_one : parts 1.0 = .finite .positive (2 ^ 52) (-52) (by norm_num) := rfl

theorem parts_eight : parts 8.0 = .finite .positive (2 ^ 52) (-49) (by norm_num) := rfl

@[simp] theorem value_zero : value 0.0 = 0 := by
  unfold value
  rw [parts_zero]
  rfl

@[simp] theorem value_half : value 0.5 = 1 / 2 := by
  unfold value
  rw [parts_half]
  show ((2 ^ 52 : ℕ) : ℝ) * 2 ^ (-53 : ℤ) = 1 / 2
  norm_num

@[simp] theorem value_one : value 1.0 = 1 := by
  unfold value
  rw [parts_one]
  show ((2 ^ 52 : ℕ) : ℝ) * 2 ^ (-52 : ℤ) = 1
  norm_num

@[simp] theorem value_eight : value 8.0 = 8 := by
  unfold value
  rw [parts_eight]
  show ((2 ^ 52 : ℕ) : ℝ) * 2 ^ (-49 : ℤ) = 8
  norm_num

theorem isFinite_zero : (0.0 : Float).isFinite = true := rfl

theorem isFinite_half : (0.5 : Float).isFinite = true := rfl

theorem isFinite_one : (1.0 : Float).isFinite = true := rfl

theorem isFinite_eight : (8.0 : Float).isFinite = true := rfl

end Constants

/-! ### The closed unit interval -/

/-- **A double that is a number of the closed unit interval.** -/
structure InUnit (x : Float) : Prop where
  number : x.isNaN = false
  nonneg : 0.0 ≤ x
  le_one : x ≤ 1.0

section InUnit

variable {x y : Float}

theorem InUnit.isFinite (unit : InUnit x) : x.isFinite = true :=
  isFinite_of_le_of_le isFinite_zero isFinite_one unit.nonneg unit.le_one

/-- **The finite doubles whose numbers lie in the unit interval.** -/
theorem inUnit_iff : InUnit x ↔ x.isFinite = true ∧ 0 ≤ value x ∧ value x ≤ 1 := by
  constructor
  · intro unit
    have nonneg := (le_iff isFinite_zero unit.isFinite).mp unit.nonneg
    have le_one := (le_iff unit.isFinite isFinite_one).mp unit.le_one
    rw [value_zero] at nonneg
    rw [value_one] at le_one
    exact ⟨unit.isFinite, nonneg, le_one⟩
  · rintro ⟨finite, nonneg, le_one⟩
    refine ⟨isNaN_of_isFinite finite, ?_, ?_⟩
    · rw [le_iff isFinite_zero finite, value_zero]
      exact nonneg
    · rw [le_iff finite isFinite_one, value_one]
      exact le_one

theorem inUnit_of_le (nonneg : 0.0 ≤ x) (le_one : x ≤ 1.0) : InUnit x :=
  ⟨isNaN_of_isFinite (isFinite_of_le_of_le isFinite_zero isFinite_one nonneg le_one), nonneg,
    le_one⟩

theorem inUnit_zero : InUnit 0.0 := inUnit_iff.mpr ⟨isFinite_zero, by norm_num, by norm_num⟩

theorem inUnit_one : InUnit 1.0 := inUnit_iff.mpr ⟨isFinite_one, by norm_num, by norm_num⟩

/-- A number of at most 2 is in range. -/
theorem finite_of_rounds {v : ℝ} (rounds : Rounds x v) (nonneg : 0 ≤ v) (le : v ≤ 2) :
    x.isFinite = true ∧ value x = rounded v ∧ 0 ≤ value x ∧ value x ≤ 2 := by
  have grid : OnGrid 2 := ⟨1, 1, by norm_num, by norm_num, by norm_num⟩
  have above := rounded_nonneg nonneg
  have below := rounded_le_of_onGrid grid le
  have range : |rounded v| < 2 ^ (1024 : ℤ) := by
    rw [abs_of_nonneg above]
    calc rounded v ≤ 2 := below
      _ = 2 ^ (1 : ℤ) := (zpow_one 2).symm
      _ < 2 ^ (1024 : ℤ) := zpow_lt_zpow_right₀ (by norm_num) (by norm_num)
  obtain ⟨finite, value_eq⟩ := rounds.finite range
  rw [value_eq]
  exact ⟨finite, rfl, above, below⟩

/-- **Rounding does not leave the unit interval.** -/
theorem inUnit_of_rounds {v : ℝ} (rounds : Rounds x v) (nonneg : 0 ≤ v) (le_one : v ≤ 1) :
    InUnit x := by
  obtain ⟨finite, value_eq, above, _⟩ := finite_of_rounds rounds nonneg (by linarith)
  refine inUnit_iff.mpr ⟨finite, above, ?_⟩
  rw [value_eq]
  exact rounded_le_of_onGrid onGrid_one le_one

/-- **Complements stay in the unit interval.** -/
theorem inUnit_complement (unit : InUnit x) : InUnit (1.0 - x) := by
  obtain ⟨finite, nonneg, le_one⟩ := inUnit_iff.mp unit
  refine inUnit_of_rounds (rounds_sub isFinite_one finite) ?_ ?_
  · rw [value_one]
    linarith
  · rw [value_one]
    linarith

theorem inUnit_geometric (unit : InUnit x) (otherUnit : InUnit y) : InUnit (x * y).sqrt := by
  obtain ⟨finite, nonneg, le_one⟩ := inUnit_iff.mp unit
  obtain ⟨otherFinite, otherNonneg, other_le_one⟩ := inUnit_iff.mp otherUnit
  have product : InUnit (x * y) :=
    inUnit_of_rounds (rounds_mul finite otherFinite) (mul_nonneg nonneg otherNonneg)
      (mul_le_one₀ le_one otherNonneg other_le_one)
  obtain ⟨finite, nonneg, le_one⟩ := inUnit_iff.mp product
  refine inUnit_of_rounds (rounds_sqrt finite nonneg) (Real.sqrt_nonneg _) ?_
  exact Real.sqrt_le_one.mpr le_one

theorem inUnit_arithmetic (unit : InUnit x) (otherUnit : InUnit y) : InUnit (0.5 * (x + y)) := by
  obtain ⟨finite, nonneg, le_one⟩ := inUnit_iff.mp unit
  obtain ⟨otherFinite, otherNonneg, other_le_one⟩ := inUnit_iff.mp otherUnit
  obtain ⟨finite, _, nonneg, le_two⟩ :=
    finite_of_rounds (rounds_add finite otherFinite) (by linarith) (by linarith)
  refine inUnit_of_rounds (rounds_mul isFinite_half finite) ?_ ?_
  · rw [value_half]
    linarith
  · rw [value_half]
    linarith

theorem inUnit_eighth (unit : InUnit x) : InUnit (x / 8.0) := by
  obtain ⟨finite, nonneg, le_one⟩ := inUnit_iff.mp unit
  refine inUnit_of_rounds (rounds_div finite isFinite_eight (by norm_num)) ?_ ?_
  · rw [value_eight]
    linarith
  · rw [value_eight]
    linarith

/-- **A number and its complement add up to 1**, but for the rounding of the complement. -/
theorem abs_complement_error (unit : InUnit x) :
    |value (1.0 - x) + value x - 1| ≤ 2 ^ (-54 : ℤ) := by
  obtain ⟨finite, nonneg, le_one⟩ := inUnit_iff.mp unit
  have rounds := rounds_sub isFinite_one finite
  rw [value_one] at rounds
  obtain ⟨_, value_eq, _⟩ := finite_of_rounds rounds (by linarith) (by linarith)
  rw [value_eq, show rounded (1 - value x) + value x - 1 =
    rounded (1 - value x) - (1 - value x) by ring]
  rcases nonneg.lt_or_eq with positive | zero
  · have below : |1 - value x| < 2 ^ (-53 + 53 : ℤ) := by
      rw [neg_add_cancel, zpow_zero, abs_of_nonneg (by linarith)]
      linarith
    calc _ ≤ 2 ^ (-53 : ℤ) / 2 := abs_rounded_sub_le_of_lt below (by norm_num)
      _ = 2 ^ (-54 : ℤ) := by norm_num
  · rw [← zero, sub_zero, rounded_of_onGrid onGrid_one, sub_self, abs_zero]
    positivity

/-- The complement of a number up to one half is one half or more. -/
theorem half_le_complement (unit : InUnit x) (le : x ≤ 0.5) : 0.5 ≤ 1.0 - x := by
  have complement := inUnit_complement unit
  obtain ⟨finite, nonneg, le_one⟩ := inUnit_iff.mp unit
  have rounds := rounds_sub isFinite_one finite
  rw [value_one] at rounds
  obtain ⟨_, value_eq, _⟩ := finite_of_rounds rounds (by linarith) (by linarith)
  rw [le_iff finite isFinite_half, value_half] at le
  rw [le_iff isFinite_half complement.isFinite, value_half, value_eq]
  exact le_rounded_of_onGrid ⟨1, -1, by norm_num, by norm_num, by norm_num⟩ (by linarith)

/-- The complement of a number from one half on is one half or less. -/
theorem complement_le_half (unit : InUnit x) (half : 0.5 ≤ x) : 1.0 - x ≤ 0.5 := by
  have complement := inUnit_complement unit
  obtain ⟨finite, nonneg, le_one⟩ := inUnit_iff.mp unit
  have rounds := rounds_sub isFinite_one finite
  rw [value_one] at rounds
  obtain ⟨_, value_eq, _⟩ := finite_of_rounds rounds (by linarith) (by linarith)
  rw [le_iff isFinite_half finite, value_half] at half
  rw [le_iff complement.isFinite isFinite_half, value_half, value_eq]
  exact rounded_le_of_onGrid ⟨1, -1, by norm_num, by norm_num, by norm_num⟩ (by linarith)

end InUnit

/-! ### What is rounded into the unit interval -/

section Thresholds

variable {v : ℝ}

/-- Up to half a unit above an even multiple of the spacing, rounding goes down. -/
theorem rounded_le_even_iff {m q : ℤ} (even : Even m) (digits : |m + 1| ≤ 2 ^ 53)
    (least : -1074 ≤ q)
    (spacing : ∀ w : ℝ, m * 2 ^ q < w → w < (m + 1) * 2 ^ q → quantum w = q) :
    rounded v ≤ m * 2 ^ q ↔ v ≤ (m + 1 / 2) * 2 ^ q := by
  have scale : (0 : ℝ) < 2 ^ q := by positivity
  have tie : rounded ((m + 1 / 2) * 2 ^ q) = m * 2 ^ q := by
    have grid := spacing ((m + 1 / 2) * 2 ^ q) (by nlinarith) (by nlinarith)
    have nearest : roundEven ((m + 1 / 2 : ℝ) * 2 ^ q / 2 ^ q) = m := by
      refine roundEven_eq (Or.inr ⟨?_, even⟩)
      rw [mul_div_cancel_right₀ _ scale.ne', add_sub_cancel_left, abs_of_pos (by norm_num)]
    unfold rounded
    rw [grid, nearest]
  constructor
  · intro low
    by_contra above
    rw [not_le] at above
    have next : (m + 1) * 2 ^ q ≤ rounded v := by
      rcases le_or_gt (((m : ℝ) + 1) * 2 ^ q) v with beyond | inside
      · refine le_rounded_of_onGrid ⟨m + 1, q, by push_cast; rfl, digits, least⟩ beyond
      · have grid := spacing v (by nlinarith) inside
        have nearest : roundEven (v / 2 ^ q) = m + 1 := by
          have more : (m : ℝ) + 1 / 2 < v / 2 ^ q := (lt_div_iff₀ scale).mpr above
          have less : v / 2 ^ q < m + 1 := (div_lt_iff₀ scale).mpr inside
          refine roundEven_eq (Or.inl ?_)
          push_cast
          rw [abs_lt]
          constructor <;> linarith
        unfold rounded
        rw [grid, nearest]
        push_cast
        exact le_rfl
    nlinarith
  · intro below
    rw [← tie]
    exact rounded_mono below

/-- **What is rounded to at most a power of two.** -/
theorem rounded_le_zpow_iff {k : ℤ} (least : -1022 ≤ k) :
    rounded v ≤ 2 ^ k ↔ v ≤ 2 ^ k + 2 ^ (k - 53) := by
  obtain ⟨q, rfl⟩ : ∃ q, k = q + 52 := ⟨k - 52, by ring⟩
  have scale : (0 : ℝ) < 2 ^ q := by positivity
  have power : (2 : ℝ) ^ (q + 52) = ((2 ^ 52 : ℤ) : ℝ) * 2 ^ q := by
    rw [zpow_add₀ (by norm_num), mul_comm]
    norm_num
  have half : (2 : ℝ) ^ (q + 52 - 53) = 1 / 2 * 2 ^ q := by
    rw [show q + 52 - 53 = q - 1 by ring, zpow_sub₀ (by norm_num), zpow_one]
    ring
  have top : (2 : ℝ) ^ (q + 53) = ((2 ^ 53 : ℤ) : ℝ) * 2 ^ q := by
    rw [zpow_add₀ (by norm_num), mul_comm]
    norm_num
  rw [half, power, ← add_mul]
  refine rounded_le_even_iff ?_ (by norm_num) (by omega) ?_
  · exact Int.even_pow.mpr ⟨even_two, by norm_num⟩
  · intro w above below
    rw [← power] at above
    have positive : 0 < w := lt_trans (by positivity) above
    refine quantum_eq ?_ ?_ (by omega)
    · rw [abs_of_pos positive]
      exact above.le
    · rw [abs_of_pos positive, top]
      refine below.trans (mul_lt_mul_of_pos_right ?_ scale)
      norm_num

/-- **What is rounded to 0 or less.** -/
theorem rounded_nonpos_iff : rounded v ≤ 0 ↔ v ≤ 2 ^ (-1075 : ℤ) := by
  have half : (2 : ℝ) ^ (-1075 : ℤ) = (((0 : ℤ) : ℝ) + 1 / 2) * 2 ^ (-1074 : ℤ) := by
    rw [show (-1075 : ℤ) = -1074 - 1 by norm_num, zpow_sub₀ (by norm_num), zpow_one,
      Int.cast_zero]
    ring
  have none : ((0 : ℤ) : ℝ) * 2 ^ (-1074 : ℤ) = 0 := by rw [Int.cast_zero, zero_mul]
  rw [half, ← none]
  refine rounded_le_even_iff Even.zero (by norm_num) le_rfl fun w above below => ?_
  rw [none] at above
  rw [Int.cast_zero, zero_add, one_mul] at below
  refine quantum_eq_least above.ne' ?_
  rw [abs_of_pos above]
  exact below.trans (zpow_lt_zpow_right₀ (by norm_num) (by norm_num))

/-- **What is rounded to 0 or more.** -/
theorem rounded_nonneg_iff : 0 ≤ rounded v ↔ -2 ^ (-1075 : ℤ) ≤ v := by
  rw [← neg_nonpos, ← rounded_neg, rounded_nonpos_iff, neg_le]

/-- What is rounded to at least the negative of a power of two. -/
theorem neg_zpow_le_rounded_iff {k : ℤ} (least : -1022 ≤ k) :
    -2 ^ k ≤ rounded v ↔ -(2 ^ k + 2 ^ (k - 53)) ≤ v := by
  rw [neg_le, ← rounded_neg, rounded_le_zpow_iff least, neg_le]

theorem rounded_le_one_iff : rounded v ≤ 1 ↔ v ≤ 1 + 2 ^ (-53 : ℤ) := by
  rw [← zpow_zero (2 : ℝ), rounded_le_zpow_iff (by norm_num), zero_sub]

end Thresholds

section Results

variable {x y : Float} {v : ℝ}

/-- Whether a result lies between bounds within the range is up to its rounded number. -/
theorem between_iff {low high : ℝ} (rounds : Rounds x v) (below : -2 ^ (1024 : ℤ) < low)
    (above : high < 2 ^ (1024 : ℤ)) :
    x.isFinite = true ∧ low ≤ value x ∧ value x ≤ high ↔
      low ≤ rounded v ∧ rounded v ≤ high := by
  rcases lt_or_ge |rounded v| (2 ^ (1024 : ℤ)) with range | overflow
  · obtain ⟨finite, value_eq⟩ := rounds.finite range
    rw [value_eq]
    exact and_iff_right finite
  · constructor
    · rintro ⟨finite, _⟩
      rw [isFinite_eq, rounds.infinite overflow] at finite
      cases finite
    · rintro ⟨low_le, le_high⟩
      have range := abs_lt.mpr ⟨below.trans_le low_le, le_high.trans_lt above⟩
      exact absurd range (not_lt.mpr overflow)

/-- **When a rounded number lies in the unit interval.** -/
theorem inUnit_rounds_iff (rounds : Rounds x v) : InUnit x ↔ 0 ≤ rounded v ∧ rounded v ≤ 1 := by
  rw [inUnit_iff, between_iff rounds]
  · exact neg_lt_zero.mpr (by positivity)
  · exact one_lt_zpow₀ (by norm_num) (by norm_num)

/-- **Which products lie in the unit interval.** -/
theorem inUnit_mul_iff (finite : x.isFinite = true) (otherFinite : y.isFinite = true) :
    InUnit (x * y) ↔
      -2 ^ (-1075 : ℤ) ≤ value x * value y ∧ value x * value y ≤ 1 + 2 ^ (-53 : ℤ) := by
  rw [inUnit_rounds_iff (rounds_mul finite otherFinite), rounded_nonneg_iff, rounded_le_one_iff]

/-- Packing loses neither infinities nor what is no number. -/
theorem isFinite_packed {u : UnpackedFloat} (canonical : Canonical u) :
    (unpack .binary64 (pack .binary64 u)).isFinite = u.isFinite :=
  congrArg UnpackedFloat.isFinite (unpack_pack canonical)

/-- Only numbers have finite complements. -/
theorem isFinite_of_complement (finite : (1.0 - x).isFinite = true) : x.isFinite = true := by
  have canonical := canonical_parts x
  have difference : parts (1.0 - x) = unpack .binary64
    (pack .binary64 (UnpackedFloat.sub .binary64 (parts 1.0) (parts x))) := rfl
  rw [isFinite_eq, difference, parts_one] at finite
  rw [isFinite_eq]
  generalize parts x = u at canonical finite ⊢
  cases canonical with
  | notANumber =>
    exact Bool.noConfusion ((isFinite_packed .notANumber).symm.trans finite)
  | infinity sign =>
    exact Bool.noConfusion ((isFinite_packed (.infinity (-sign))).symm.trans finite)
  | zero sign => rfl
  | finite sign mantissa exponent positive => rfl

/-- Only numbers have finite products. -/
theorem isFinite_of_mul (finite : (x * y).isFinite = true) : x.isFinite = true := by
  have product : parts (x * y) =
    unpack .binary64 (pack .binary64 (UnpackedFloat.mul .binary64 (parts x) (parts y))) := rfl
  rw [isFinite_eq, product] at finite
  rw [isFinite_eq]
  generalize parts x = u at finite ⊢
  generalize parts y = v at finite
  cases u with
  | notANumber =>
    exact Bool.noConfusion ((isFinite_packed .notANumber).symm.trans finite)
  | infinity sign =>
    cases v with
    | notANumber =>
      exact Bool.noConfusion ((isFinite_packed .notANumber).symm.trans finite)
    | infinity otherSign =>
      exact Bool.noConfusion ((isFinite_packed (.infinity (sign * otherSign))).symm.trans finite)
    | zero otherSign =>
      exact Bool.noConfusion ((isFinite_packed .notANumber).symm.trans finite)
    | finite otherSign mantissa exponent positive =>
      exact Bool.noConfusion ((isFinite_packed (.infinity (sign * otherSign))).symm.trans finite)
  | zero sign => rfl
  | finite sign mantissa exponent positive => rfl

/-- **Which complements lie in the unit interval.** -/
theorem inUnit_complement_iff :
    InUnit (1.0 - x) ↔ x.isFinite = true ∧ -2 ^ (-53 : ℤ) ≤ value x ∧ value x ≤ 1 := by
  have of_finite : x.isFinite = true →
      (InUnit (1.0 - x) ↔ -2 ^ (-53 : ℤ) ≤ value x ∧ value x ≤ 1) := by
    intro finite
    have rounds := rounds_sub isFinite_one finite
    rw [value_one] at rounds
    rw [inUnit_rounds_iff rounds, rounded_nonneg_iff, rounded_le_one_iff]
    have grid : rounded (value x) = value x := rounded_realOf (canonical_parts x)
    constructor
    · rintro ⟨above, below⟩
      refine ⟨by linarith, ?_⟩
      -- No double lies just above 1.
      rw [← grid, rounded_le_one_iff]
      have tiny : (2 : ℝ) ^ (-1075 : ℤ) ≤ 2 ^ (-53 : ℤ) :=
        zpow_le_zpow_right₀ (by norm_num) (by norm_num)
      linarith
    · rintro ⟨above, below⟩
      have tiny : (0 : ℝ) < 2 ^ (-1075 : ℤ) := by positivity
      exact ⟨by linarith, by linarith⟩
  constructor
  · intro unit
    have finite := isFinite_of_complement unit.isFinite
    exact ⟨finite, (of_finite finite).mp unit⟩
  · rintro ⟨finite, range⟩
    exact (of_finite finite).mpr range

/-- **Which complements of products lie in the unit interval.** -/
theorem inUnit_complement_mul_iff (finite : x.isFinite = true) (otherFinite : y.isFinite = true) :
    InUnit (1.0 - x * y) ↔
      -(2 ^ (-53 : ℤ) + 2 ^ (-106 : ℤ)) ≤ value x * value y ∧
        value x * value y ≤ 1 + 2 ^ (-53 : ℤ) := by
  have power : (2 : ℝ) ^ (-53 : ℤ) < 2 ^ (1024 : ℤ) :=
    zpow_lt_zpow_right₀ (by norm_num) (by norm_num)
  rw [inUnit_complement_iff, between_iff (rounds_mul finite otherFinite) (neg_lt_neg power),
    neg_zpow_le_rounded_iff (by norm_num), rounded_le_one_iff]
  · norm_num
  · exact one_lt_zpow₀ (by norm_num) (by norm_num)

end Results

end IncompleteBeta.Binary64
