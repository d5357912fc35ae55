/-
**Rounding on the real line.**

Every finite double lies on a grid whose spacing doubles with the binade, and every operation on
doubles is the exact one followed by one rounding to that grid. The range is left out here: the grid
goes on without a largest number.

* `roundEven`: the nearest integer, a tie going to the even one;
* `quantum`, `rounded`: the spacing around a real number, as a power of two, and the grid point
  nearest to it;
* `OnGrid`: the grid points;
* **`rounded_onGrid`**, **`rounded_of_onGrid`**, **`rounded_mono`**: rounding goes to the grid,
  keeps its points and keeps the order;
* `abs_rounded_sub_le`: rounding moves by at most half the spacing.
-/

import Mathlib.Algebra.Order.Archimedean.Real.Basic
import Mathlib.Algebra.Order.Field.Power
import Mathlib.Algebra.Order.Floor.Ring
import Mathlib.Data.Int.Log
import Mathlib.Tactic.Linarith
import Mathlib.Tactic.Positivity
import Mathlib.Tactic.Ring

namespace IncompleteBeta.Binary64

/-! ### Nearest integers -/

section Integers

variable {v w : ℝ} {n : ℤ}

/-- The integer nearest a real number, a tie going to the even one. -/
noncomputable def roundEven (v : ℝ) : ℤ :=
  if Int.fract v < 1 / 2 ∨ (Int.fract v = 1 / 2 ∧ Even ⌊v⌋) then ⌊v⌋ else ⌊v⌋ + 1

/-- An integer is nearest a real number, and even where there are two such. -/
def NearestEven (v : ℝ) (n : ℤ) : Prop := |v - n| < 1 / 2 ∨ (|v - n| = 1 / 2 ∧ Even n)

theorem nearestEven_roundEven (v : ℝ) : NearestEven v (roundEven v) := by
  have floor_add : (⌊v⌋ : ℝ) + Int.fract v = v := Int.floor_add_fract v
  have below : Int.fract v < 1 := Int.fract_lt_one v
  have above : 0 ≤ Int.fract v := Int.fract_nonneg v
  unfold NearestEven roundEven
  split
  next down =>
    have distance : |v - (⌊v⌋ : ℝ)| = Int.fract v := by
      rw [show v - (⌊v⌋ : ℝ) = Int.fract v by linarith, abs_of_nonneg above]
    rw [distance]
    exact down
  next up =>
    rw [not_or, not_and, not_lt] at up
    have distance : |v - ((⌊v⌋ + 1 : ℤ) : ℝ)| = 1 - Int.fract v := by
      rw [Int.cast_add, Int.cast_one, abs_sub_comm, abs_of_nonneg (by linarith)]
      linarith
    rw [distance]
    rcases up.1.lt_or_eq with more | tie
    · exact Or.inl (by linarith)
    · refine Or.inr ⟨by linarith, ?_⟩
      exact (Int.not_even_iff_odd.mp (up.2 tie.symm)).add_one

/-- An integer that is nearest is within one half. -/
theorem NearestEven.abs_sub_le (nearest : NearestEven v n) : |v - n| ≤ 1 / 2 := by
  rcases nearest with less | tie
  · exact less.le
  · exact tie.1.le

/-- The nearest integers of two real numbers are in their order. -/
theorem NearestEven.mono {m : ℤ} (first : NearestEven v m) (second : NearestEven w n)
    (le : v ≤ w) : m ≤ n := by
  by_contra above
  have step : (n : ℝ) + 1 ≤ m := by exact_mod_cast not_le.mp above
  have close := abs_le.mp first.abs_sub_le
  have secondClose := abs_le.mp second.abs_sub_le
  -- The two numbers can only lie halfway between neighbours, and both of these would be even.
  have half : v - m = -(1 / 2) := by linarith
  have secondHalf : w - n = 1 / 2 := by linarith
  have next : m = n + 1 := by
    have : (m : ℝ) = n + 1 := by linarith
    exact_mod_cast this
  have even : Even m := by
    rcases first with less | tie
    · rw [half, abs_neg, abs_of_pos (by norm_num)] at less
      exact absurd less (lt_irrefl _)
    · exact tie.2
  have secondEven : Even n := by
    rcases second with less | tie
    · rw [secondHalf, abs_of_pos (by norm_num)] at less
      exact absurd less (lt_irrefl _)
    · exact tie.2
  rw [next, Int.even_add_one] at even
  exact even secondEven

/-- There is one nearest integer. -/
theorem roundEven_eq (nearest : NearestEven v n) : roundEven v = n :=
  le_antisymm ((nearestEven_roundEven v).mono nearest le_rfl)
    (nearest.mono (nearestEven_roundEven v) le_rfl)

theorem roundEven_mono (le : v ≤ w) : roundEven v ≤ roundEven w :=
  (nearestEven_roundEven v).mono (nearestEven_roundEven w) le

@[simp] theorem roundEven_intCast (n : ℤ) : roundEven n = n := by
  refine roundEven_eq (Or.inl ?_)
  rw [sub_self, abs_zero]
  norm_num

@[simp] theorem roundEven_zero : roundEven 0 = 0 := by
  rw [← Int.cast_zero, roundEven_intCast]

theorem roundEven_neg (v : ℝ) : roundEven (-v) = -roundEven v := by
  refine roundEven_eq ?_
  have distance : |-v - ((-roundEven v : ℤ) : ℝ)| = |v - roundEven v| := by
    rw [← abs_neg]
    push_cast
    ring_nf
  unfold NearestEven
  rw [distance, even_neg]
  exact nearestEven_roundEven v

end Integers

/-! ### Grid points -/

/-- The power of two of the spacing around a real number: 53 digits, and no digit below
`2 ^ (-1074)`. -/
noncomputable def quantum (v : ℝ) : ℤ := max (Int.log 2 |v| - 52) (-1074)

/-- The grid point nearest a real number, a tie going to the even multiple of the spacing. -/
noncomputable def rounded (v : ℝ) : ℝ := roundEven (v / 2 ^ quantum v) * 2 ^ quantum v

/-- A grid point: an integer of at most 53 digits, or the next power of two, times a power of two
that is not below the smallest. -/
def OnGrid (v : ℝ) : Prop := ∃ m e : ℤ, v = m * 2 ^ e ∧ |m| ≤ 2 ^ 53 ∧ -1074 ≤ e

section Grid

variable {v w g : ℝ}

theorem OnGrid.neg (grid : OnGrid g) : OnGrid (-g) := by
  obtain ⟨m, e, rfl, digits, least⟩ := grid
  refine ⟨-m, e, ?_, ?_, least⟩
  · push_cast
    ring
  · rw [abs_neg]
    exact digits

theorem onGrid_zero : OnGrid 0 := ⟨0, 0, by norm_num, by norm_num, by norm_num⟩

/-- Powers of two are grid points as long as they are not too small. -/
theorem onGrid_zpow {e : ℤ} (least : -1074 ≤ e) : OnGrid ((2 : ℝ) ^ e) :=
  ⟨1, e, by norm_num, by norm_num, least⟩

theorem onGrid_one : OnGrid 1 := ⟨1, 0, by norm_num, by norm_num, by norm_num⟩

@[simp] theorem quantum_neg (v : ℝ) : quantum (-v) = quantum v := by
  unfold quantum
  rw [abs_neg]

theorem quantum_ge (v : ℝ) : -1074 ≤ quantum v := le_max_right _ _

/-- A number is below 53 digits over its spacing. -/
theorem abs_lt_of_quantum (v : ℝ) : |v| < 2 ^ (quantum v + 53) := by
  have below : |v| < ((2 : ℕ) : ℝ) ^ (Int.log 2 |v| + 1) :=
    Int.lt_zpow_succ_log_self (by norm_num) |v|
  rw [Nat.cast_ofNat] at below
  refine below.trans_le (zpow_le_zpow_right₀ (by norm_num) ?_)
  have : Int.log 2 |v| - 52 ≤ quantum v := le_max_left _ _
  linarith

/-- A number fills 53 digits over its spacing unless that is the smallest. -/
theorem le_abs_of_quantum (nonzero : v ≠ 0) (more : -1074 < quantum v) :
    2 ^ (quantum v + 52) ≤ |v| := by
  have log_eq : quantum v = Int.log 2 |v| - 52 := by
    unfold quantum at more ⊢
    omega
  have above : ((2 : ℕ) : ℝ) ^ Int.log 2 |v| ≤ |v| :=
    Int.zpow_log_le_self (by norm_num) (abs_pos.mpr nonzero)
  rw [Nat.cast_ofNat] at above
  rw [log_eq, sub_add_cancel]
  exact above

/-- The spacing of a number in a binade. -/
theorem quantum_of_bounds {k : ℤ} (above : 2 ^ k ≤ |v|) (below : |v| < 2 ^ (k + 1)) :
    quantum v = max (k - 52) (-1074) := by
  have positive : 0 < |v| := lt_of_lt_of_le (by positivity) above
  have le_log : k ≤ Int.log 2 |v| := by
    rw [← Int.zpow_le_iff_le_log (by norm_num) positive, Nat.cast_ofNat]
    exact above
  have log_lt : Int.log 2 |v| < k + 1 := by
    rw [← Int.lt_zpow_iff_log_lt (by norm_num) positive, Nat.cast_ofNat]
    exact below
  unfold quantum
  omega

/-- The spacing of a number in a binade that is not below the smallest. -/
theorem quantum_eq {e : ℤ} (above : 2 ^ (e + 52) ≤ |v|) (below : |v| < 2 ^ (e + 53))
    (least : -1074 ≤ e) : quantum v = e := by
  rw [quantum_of_bounds above (by rwa [add_assoc])]
  omega

/-- The spacing of a number below the smallest binade. -/
theorem quantum_eq_least (nonzero : v ≠ 0) (below : |v| < 2 ^ (-1021 : ℤ)) :
    quantum v = -1074 := by
  have log_lt : Int.log 2 |v| < -1021 := by
    rw [← Int.lt_zpow_iff_log_lt (by norm_num) (abs_pos.mpr nonzero), Nat.cast_ofNat]
    exact below
  unfold quantum
  omega

theorem quantum_mono (nonzero : v ≠ 0) (le : |v| ≤ |w|) : quantum v ≤ quantum w := by
  have : Int.log 2 |v| ≤ Int.log 2 |w| := Int.log_mono_right (abs_pos.mpr nonzero) le
  unfold quantum
  omega

end Grid

/-! ### Rounding to the grid -/

section Rounding

variable {v w g : ℝ}

@[simp] theorem rounded_zero : rounded 0 = 0 := by
  unfold rounded
  rw [zero_div, roundEven_zero, Int.cast_zero, zero_mul]

theorem rounded_neg (v : ℝ) : rounded (-v) = -rounded v := by
  unfold rounded
  rw [quantum_neg, neg_div, roundEven_neg, Int.cast_neg, neg_mul]

/-- **Rounding goes to the grid.** -/
theorem rounded_onGrid (v : ℝ) : OnGrid (rounded v) := by
  refine ⟨roundEven (v / 2 ^ quantum v), quantum v, rfl, ?_, quantum_ge v⟩
  have scaled : |v / 2 ^ quantum v| ≤ 2 ^ 53 := by
    rw [abs_div, abs_of_pos (by positivity : (0 : ℝ) < 2 ^ quantum v),
      div_le_iff₀ (by positivity), ← zpow_natCast, ← zpow_add₀ (by norm_num), add_comm]
    exact (abs_lt_of_quantum v).le
  have bounds := abs_le.mp scaled
  rw [abs_le]
  constructor
  · rw [← roundEven_intCast (-2 ^ 53)]
    exact roundEven_mono (by exact_mod_cast bounds.1)
  · rw [← roundEven_intCast (2 ^ 53)]
    exact roundEven_mono (by exact_mod_cast bounds.2)

/-- A bound that is a multiple of the spacing stays one. -/
theorem rounded_le_multiple {k : ℤ} (le : v ≤ k * 2 ^ quantum v) :
    rounded v ≤ k * 2 ^ quantum v := by
  have positive : (0 : ℝ) < 2 ^ quantum v := by positivity
  refine mul_le_mul_of_nonneg_right ?_ positive.le
  have : v / 2 ^ quantum v ≤ k := (div_le_iff₀ positive).mpr le
  have : roundEven (v / 2 ^ quantum v) ≤ k := by
    rw [← roundEven_intCast k]
    exact roundEven_mono this
  exact_mod_cast this

/-- A bound that is a grid point stays one. -/
theorem rounded_le_of_onGrid (grid : OnGrid g) (le : v ≤ g) : rounded v ≤ g := by
  rcases eq_or_ne v 0 with rfl | nonzero
  · rw [rounded_zero]
    exact le
  obtain ⟨m, e, rfl, digits, least⟩ := grid
  rcases le_or_gt (quantum v) e with coarse | fine
  · -- The bound is a multiple of the spacing at `v`.
    obtain ⟨count, same⟩ := Int.eq_ofNat_of_zero_le (sub_nonneg.mpr coarse)
    have split : (m : ℝ) * 2 ^ e = ((m * 2 ^ count : ℤ) : ℝ) * 2 ^ quantum v := by
      rw [show e = (count : ℤ) + quantum v by omega, zpow_add₀ (by norm_num), zpow_natCast]
      push_cast
      ring
    rw [split] at le ⊢
    exact rounded_le_multiple le
  · -- The spacing at the bound is finer, so `v` is at least as far from 0.
    have far : 2 ^ (quantum v + 52) ≤ |v| := le_abs_of_quantum nonzero (by omega)
    have near : |(m : ℝ) * 2 ^ e| ≤ 2 ^ (quantum v + 52) := by
      rw [abs_mul, abs_of_pos (by positivity : (0 : ℝ) < 2 ^ e)]
      have cast : |(m : ℝ)| ≤ 2 ^ (53 : ℤ) := by exact_mod_cast digits
      calc |(m : ℝ)| * 2 ^ e ≤ 2 ^ (53 : ℤ) * 2 ^ e :=
            mul_le_mul_of_nonneg_right cast (by positivity)
        _ = 2 ^ (53 + e) := (zpow_add₀ (by norm_num) _ _).symm
        _ ≤ 2 ^ (quantum v + 52) := zpow_le_zpow_right₀ (by norm_num) (by omega)
    have power : (2 : ℝ) ^ (quantum v + 52) = 2 ^ 52 * 2 ^ quantum v := by
      rw [add_comm, zpow_add₀ (by norm_num)]
      norm_num
    have bound := abs_le.mp near
    rcases le_or_gt 0 v with positive | negative
    · rw [abs_of_nonneg positive] at far
      have : rounded v ≤ ((2 ^ 52 : ℤ) : ℝ) * 2 ^ quantum v := by
        refine rounded_le_multiple ?_
        push_cast
        linarith
      push_cast at this
      linarith
    · rw [abs_of_neg negative] at far
      have : rounded v ≤ ((-2 ^ 52 : ℤ) : ℝ) * 2 ^ quantum v := by
        refine rounded_le_multiple ?_
        push_cast
        linarith
      push_cast at this
      linarith

theorem le_rounded_of_onGrid (grid : OnGrid g) (le : g ≤ v) : g ≤ rounded v := by
  have := rounded_le_of_onGrid grid.neg (neg_le_neg le)
  rw [rounded_neg] at this
  exact neg_le_neg_iff.mp this

/-- **Rounding keeps grid points.** -/
theorem rounded_of_onGrid (grid : OnGrid v) : rounded v = v :=
  le_antisymm (rounded_le_of_onGrid grid le_rfl) (le_rounded_of_onGrid grid le_rfl)

theorem rounded_nonneg (nonneg : 0 ≤ v) : 0 ≤ rounded v := le_rounded_of_onGrid onGrid_zero nonneg

/-- Between two numbers of different spacing and one sign there is a grid point. -/
theorem exists_onGrid_between (positive : 0 < v) (le : v ≤ w) (differ : quantum v ≠ quantum w) :
    ∃ g, OnGrid g ∧ v ≤ g ∧ g ≤ w := by
  have greaterPositive : 0 < w := positive.trans_le le
  have less : quantum v < quantum w := by
    refine lt_of_le_of_ne (quantum_mono positive.ne' ?_) differ
    rw [abs_of_pos positive, abs_of_pos greaterPositive]
    exact le
  have least := quantum_ge v
  refine ⟨2 ^ (quantum w + 52), onGrid_zpow (by omega), ?_, ?_⟩
  · have below := abs_lt_of_quantum v
    rw [abs_of_pos positive] at below
    exact below.le.trans (zpow_le_zpow_right₀ (by norm_num) (by omega))
  · have above := le_abs_of_quantum greaterPositive.ne' (by omega)
    rw [abs_of_pos greaterPositive] at above
    exact above

theorem rounded_mono_of_pos (positive : 0 < v) (le : v ≤ w) : rounded v ≤ rounded w := by
  by_cases same : quantum v = quantum w
  · unfold rounded
    rw [← same]
    refine mul_le_mul_of_nonneg_right ?_ (by positivity)
    have := roundEven_mono (div_le_div_of_nonneg_right le (by positivity : (0 : ℝ) ≤ 2 ^ quantum v))
    exact_mod_cast this
  · obtain ⟨g, grid, below, above⟩ := exists_onGrid_between positive le same
    exact (rounded_le_of_onGrid grid below).trans (le_rounded_of_onGrid grid above)

/-- **Rounding keeps the order.** -/
theorem rounded_mono (le : v ≤ w) : rounded v ≤ rounded w := by
  rcases lt_or_ge 0 v with positive | nonpos
  · exact rounded_mono_of_pos positive le
  rcases lt_or_ge w 0 with negative | nonneg
  · have := rounded_mono_of_pos (neg_pos.mpr negative) (neg_le_neg le)
    rw [rounded_neg, rounded_neg] at this
    exact neg_le_neg_iff.mp this
  · exact (rounded_le_of_onGrid onGrid_zero nonpos).trans (rounded_nonneg nonneg)

/-- Rounding moves by at most half the spacing. -/
theorem abs_rounded_sub_le (v : ℝ) : |rounded v - v| ≤ 2 ^ quantum v / 2 := by
  have positive : (0 : ℝ) < 2 ^ quantum v := by positivity
  have close := (nearestEven_roundEven (v / 2 ^ quantum v)).abs_sub_le
  have scaled : rounded v - v =
      -((v / 2 ^ quantum v - roundEven (v / 2 ^ quantum v)) * 2 ^ quantum v) := by
    unfold rounded
    rw [sub_mul, div_mul_cancel₀ _ positive.ne']
    ring
  rw [scaled, abs_neg, abs_mul, abs_of_pos positive]
  calc _ ≤ 1 / 2 * 2 ^ quantum v := mul_le_mul_of_nonneg_right close positive.le
    _ = 2 ^ quantum v / 2 := by ring

/-- Rounding moves a number below 53 digits over a spacing by at most half of that. -/
theorem abs_rounded_sub_le_of_lt {e : ℤ} (below : |v| < 2 ^ (e + 53)) (least : -1074 ≤ e) :
    |rounded v - v| ≤ 2 ^ e / 2 := by
  rcases eq_or_ne v 0 with rfl | nonzero
  · rw [rounded_zero, sub_self, abs_zero]
    positivity
  have log_lt : Int.log 2 |v| < e + 53 := by
    rw [← Int.lt_zpow_iff_log_lt (by norm_num) (abs_pos.mpr nonzero), Nat.cast_ofNat]
    exact below
  have fine : quantum v ≤ e := by
    unfold quantum
    omega
  calc |rounded v - v| ≤ 2 ^ quantum v / 2 := abs_rounded_sub_le v
    _ ≤ 2 ^ e / 2 :=
      div_le_div_of_nonneg_right (zpow_le_zpow_right₀ (by norm_num) fine) (by norm_num)

end Rounding

end IncompleteBeta.Binary64
