/-
**Errors and tolerances.**

* `relativeError_same`, **`relativeError_pos`**: the error of equal numbers is 0, and that of
  different ones is positive, however close or small they are;
* `ErrorInRange`, **`isFinite_relativeError_iff`**: when an error is finite;
* `errorInRange_of_unit`: errors of probabilities are, unless the reference is not even normal;
* `passed_iff_le`: a case that compares passes exactly if its error is within its tolerance;
* **`tolerance_admits`**: no tolerance, or one of 0, admits equal numbers alone, a negative one
  admits nothing, and a larger one admits all that a smaller one does.
-/

import IncompleteBeta.Proofs.Binary64.Distance
import IncompleteBeta.Proofs.Verification

namespace IncompleteBeta

open Binary64 (InUnit Rounds abs_value_le beq_iff eq_of_value_eq inUnit_iff isFinite_abs isFinite_eq
  isFinite_zero le_iff le_of_beq le_transitive not_le_of_lt onGrid_value parts parts_infinity_div
  pos_of_infinity rounded rounded_distance_pos rounded_le_two_mul rounded_lt_range rounded_nonneg
  rounded_ratio_pos rounds_div rounds_sub value value_abs value_zero)

attribute [local instance] Binary64.atLeastTwo_two in
/-- **An error is in range**: where the numbers differ, their distance is not rounded beyond the
largest double, nor is its quotient by a reference that is not 0. -/
def ErrorInRange (x y : Float) : Prop := value x = value y ∨
  rounded |value x - value y| < 2 ^ (1024 : ℤ) ∧
    (value y ≠ 0 → rounded (rounded |value x - value y| / |value y|) < 2 ^ (1024 : ℤ))

/-! ### Errors -/

section Errors

variable {x y : Float} (finite : x.isFinite = true) (otherFinite : y.isFinite = true)
include finite otherFinite

/-- Equal numbers have no error. -/
theorem relativeError_same (same : value x = value y) : relativeError x y = 0.0 :=
  if_pos ((beq_iff finite otherFinite).mpr same)

/-- The error of different numbers is their distance where the reference is 0, and the quotient of
it by the reference where it is not. -/
theorem relativeError_differ (differ : value x ≠ value y) : relativeError x y =
    if value y = 0 then (x - y).abs else (x - y).abs / y.abs := by
  have unequal : ¬(x == y) = true := mt (beq_iff finite otherFinite).mp differ
  have zero_iff : (y == 0.0) = true ↔ value y = 0 := by
    rw [beq_iff otherFinite isFinite_zero, value_zero]
  rw [relativeError, if_neg unequal]
  exact if_congr zero_iff rfl rfl

/-- The distance is correctly rounded. -/
theorem rounds_distance : Rounds (x - y).abs |value x - value y| :=
  (rounds_sub finite otherFinite).abs

/-- So is the quotient of a distance in range. -/
theorem rounds_ratio (nonzero : value y ≠ 0)
    (range : rounded |value x - value y| < 2 ^ (1024 : ℤ)) :
    Rounds ((x - y).abs / y.abs) (rounded |value x - value y| / |value y|) := by
  have nonneg : 0 ≤ rounded |value x - value y| := rounded_nonneg (abs_nonneg _)
  obtain ⟨finite_distance, value_distance⟩ :=
    (rounds_distance finite otherFinite).finite (by rwa [abs_of_nonneg nonneg])
  have finite_reference : y.abs.isFinite = true := by rw [isFinite_abs, otherFinite]
  have quotient := rounds_div finite_distance finite_reference
    (by rw [value_abs]; exact abs_ne_zero.mpr nonzero)
  rwa [value_distance, value_abs] at quotient

/-- A distance that is out of range is infinite, and so is its quotient. -/
theorem parts_ratio_of_overflow (overflow : 2 ^ (1024 : ℤ) ≤ rounded |value x - value y|) :
    parts (x - y).abs = .infinity .positive ∧
      parts ((x - y).abs / y.abs) = .infinity .positive := by
  have infinite := (rounds_distance finite otherFinite).infinite (overflow.trans (le_abs_self _))
  rw [if_neg (not_lt.mpr (abs_nonneg _))] at infinite
  exact ⟨infinite, parts_infinity_div infinite otherFinite⟩

/-- **The error of different numbers is positive**, however close or small they are. -/
theorem relativeError_pos (differ : value x ≠ value y) : 0.0 < relativeError x y := by
  have grid := onGrid_value x
  have otherGrid := onGrid_value y
  rw [relativeError_differ finite otherFinite differ]
  split
  next =>
    exact (rounds_distance finite otherFinite).pos
      (rounded_distance_pos grid otherGrid differ).1
  next nonzero =>
    rcases lt_or_ge (rounded |value x - value y|) (2 ^ (1024 : ℤ)) with range | overflow
    · exact (rounds_ratio finite otherFinite nonzero range).pos
        (rounded_ratio_pos grid otherGrid differ nonzero)
    · exact pos_of_infinity (parts_ratio_of_overflow finite otherFinite overflow).2

theorem relativeError_nonneg : 0.0 ≤ relativeError x y := by
  by_cases same : value x = value y
  · rw [relativeError_same finite otherFinite same]
    exact (le_iff isFinite_zero isFinite_zero).mpr le_rfl
  · exact Binary64.le_of_lt (relativeError_pos finite otherFinite same)

/-- **An error is finite exactly if it is in range.** -/
theorem isFinite_relativeError_iff : (relativeError x y).isFinite = true ↔ ErrorInRange x y := by
  unfold ErrorInRange
  by_cases same : value x = value y
  · rw [relativeError_same finite otherFinite same]
    exact iff_of_true isFinite_zero (.inl same)
  have distance := (rounds_distance finite otherFinite).isFinite_iff (abs_nonneg _)
  rw [or_iff_right same, relativeError_differ finite otherFinite same]
  split
  next zero => rw [distance, and_iff_left fun nonzero => absurd zero nonzero]
  next nonzero =>
    rcases lt_or_ge (rounded |value x - value y|) (2 ^ (1024 : ℤ)) with range | overflow
    · have nonneg : 0 ≤ rounded |value x - value y| / |value y| :=
        div_nonneg (rounded_nonneg (abs_nonneg _)) (abs_nonneg _)
      rw [(rounds_ratio finite otherFinite nonzero range).isFinite_iff nonneg, and_iff_right range]
      exact ⟨fun ratio _ => ratio, fun ratio => ratio nonzero⟩
    · rw [isFinite_eq, (parts_ratio_of_overflow finite otherFinite overflow).2]
      exact iff_of_false Bool.false_ne_true fun inside => absurd inside.1 (not_lt.mpr overflow)

end Errors

/-! ### Errors of probabilities -/

section Probabilities

variable {x y : Float} (unit : InUnit x)
include unit

theorem abs_sub_le_of_unit : |value x - value y| ≤ 1 + |value y| := by
  obtain ⟨_, nonneg, le_one⟩ := inUnit_iff.mp unit
  calc |value x - value y| ≤ |value x| + |value y| := abs_sub _ _
    _ ≤ 1 + |value y| := by
      rw [abs_of_nonneg nonneg]
      linarith

/-- The distance of a probability from any double is in range. -/
theorem rounded_distance_lt : rounded |value x - value y| < 2 ^ (1024 : ℤ) := by
  have distance := abs_sub_le_of_unit (y := y) unit
  have largest := abs_value_le y
  have spacing : (2 : ℝ) ^ (971 : ℤ) = 2 * 2 ^ (970 : ℤ) := by
    rw [show (971 : ℤ) = 1 + 970 by norm_num, zpow_add₀ (by norm_num), zpow_one]
  have large : (1 : ℝ) < 2 ^ (970 : ℤ) := one_lt_zpow₀ (by norm_num) (by norm_num)
  refine rounded_lt_range ?_
  rw [spacing] at largest
  generalize (2 : ℝ) ^ (1024 : ℤ) = range at largest ⊢
  generalize (2 : ℝ) ^ (970 : ℤ) = half at largest large ⊢
  linarith

/-- So is its quotient by a double that is not below the normal numbers. -/
theorem rounded_ratio_lt (normal : 2 ^ (-1022 : ℤ) ≤ |value y|) :
    rounded (rounded |value x - value y| / |value y|) < 2 ^ (1024 : ℤ) := by
  have size : 0 < |value y| := lt_of_lt_of_le (by positivity) normal
  have scaled : 2 ≤ 2 ^ (1023 : ℤ) * |value y| := by
    calc (2 : ℝ) = 2 ^ (1023 : ℤ) * 2 ^ (-1022 : ℤ) := by
          rw [← zpow_add₀ (by norm_num)]
          norm_num
      _ ≤ 2 ^ (1023 : ℤ) * |value y| := mul_le_mul_of_nonneg_left normal (by positivity)
  have ratio : rounded |value x - value y| / |value y| ≤ 2 ^ (1023 : ℤ) + 2 := by
    rw [div_le_iff₀ size, add_mul]
    have doubled := rounded_le_two_mul (abs_nonneg (value x - value y))
    have distance := abs_sub_le_of_unit (y := y) unit
    linarith only [doubled, distance, scaled]
  have range : (2 : ℝ) ^ (1024 : ℤ) = 2 * 2 ^ (1023 : ℤ) := by
    rw [show (1024 : ℤ) = 1 + 1023 by norm_num, zpow_add₀ (by norm_num), zpow_one]
  have far : 2 * (2 : ℝ) ^ (970 : ℤ) ≤ 2 ^ (1023 : ℤ) := by
    calc 2 * (2 : ℝ) ^ (970 : ℤ) = 2 ^ (971 : ℤ) := by
          rw [show (971 : ℤ) = 1 + 970 by norm_num, zpow_add₀ (by norm_num), zpow_one]
      _ ≤ 2 ^ (1023 : ℤ) := zpow_le_zpow_right₀ (by norm_num) (by norm_num)
  have large : (2 : ℝ) < 2 ^ (970 : ℤ) := by
    calc (2 : ℝ) = 2 ^ (1 : ℤ) := (zpow_one 2).symm
      _ < 2 ^ (970 : ℤ) := zpow_lt_zpow_right₀ (by norm_num) (by norm_num)
  refine rounded_lt_range ?_
  rw [range]
  generalize (2 : ℝ) ^ (1023 : ℤ) = middle at ratio far ⊢
  generalize (2 : ℝ) ^ (970 : ℤ) = half at far large ⊢
  linarith only [ratio, far, large]

/-- **Errors of probabilities are in range**, unless the reference is below the normal numbers. -/
theorem errorInRange_of_unit (normal : value y = 0 ∨ 2 ^ (-1022 : ℤ) ≤ |value y|) :
    ErrorInRange x y :=
  .inr ⟨rounded_distance_lt unit, fun nonzero =>
    rounded_ratio_lt unit (normal.resolve_left nonzero)⟩

end Probabilities

/-! ### Tolerances -/

section Tolerance

variable {fixture : Fixture} {expected found : Float}

/-- **A case that compares passes exactly if its error is within its tolerance.** -/
theorem passed_iff_le (compares : fixture.Compares expected found) :
    fixture.verify.passed = true ↔
      relativeError found expected ≤ fixture.tolerance.getD 0.0 := by
  rw [fixture.passed_verify, compares.found, fixture.meets_ok, compares.unfailing,
    compares.expects]
  constructor
  · rintro ⟨_, _, ⟨⟩, close⟩
    exact close
  · intro close
    exact ⟨rfl, expected, rfl, close⟩

/-- What a case compares does not depend on its tolerance. -/
theorem Fixture.Compares.withTolerance (compares : fixture.Compares expected found)
    (tolerance : Option Float) :
    Fixture.Compares { fixture with tolerance } expected found :=
  ⟨compares.unfailing, compares.expects, compares.found⟩

/-- **What a tolerance admits.** Where a finite value is compared with a finite reference, no
tolerance, or one of either 0, admits equal numbers alone, and these are one double or two zeros. A
negative tolerance admits nothing, and a larger one, no tolerance counting as 0, admits all that a
smaller one does. -/
theorem tolerance_admits (compares : fixture.Compares expected found)
    (finite : expected.isFinite = true) (otherFinite : found.isFinite = true) :
    ((∀ tolerance ∈ fixture.tolerance, (tolerance == 0.0) = true) →
      (fixture.verify.passed = true ↔ value found = value expected)) ∧
    (value found = value expected ↔ found = expected ∨ value found = 0 ∧ value expected = 0) ∧
    (∀ tolerance ∈ fixture.tolerance, tolerance < 0.0 → fixture.verify.passed = false) ∧
    ∀ raised : Option Float, fixture.tolerance.getD 0.0 ≤ raised.getD 0.0 →
      fixture.verify.passed = true →
      (Fixture.verify { fixture with tolerance := raised }).passed = true := by
  refine ⟨fun zero => ?_, ?_, fun tolerance given negative => ?_, fun raised le passed => ?_⟩
  · have zero : (fixture.tolerance.getD 0.0 == 0.0) = true := by
      cases given : fixture.tolerance with
      | none => rfl
      | some tolerance => exact zero tolerance given
    rw [passed_iff_le compares]
    constructor
    · intro close
      by_contra differ
      have at_most := le_transitive close (le_of_beq zero).1
      exact not_le_of_lt (relativeError_pos otherFinite finite differ) at_most
    · intro same
      rw [relativeError_same otherFinite finite same]
      exact (le_of_beq zero).2
  · constructor
    · intro same
      by_cases zero : value found = 0
      · exact .inr ⟨zero, same ▸ zero⟩
      · exact .inl (eq_of_value_eq otherFinite finite zero same)
    · rintro (rfl | ⟨zero, otherZero⟩)
      · rfl
      · rw [zero, otherZero]
  · rw [← Bool.not_eq_true, passed_iff_le compares, given, Option.getD_some]
    intro close
    have below := le_transitive (relativeError_nonneg otherFinite finite) close
    exact not_le_of_lt negative below
  · rw [passed_iff_le (compares.withTolerance raised)]
    exact le_transitive ((passed_iff_le compares).mp passed) le

/-- The lower tail at 0, without a tolerance. -/
def tailAtZero (expected : Float) : Fixture :=
  ⟨"zero", .lowerTail, 2.0, 3.0, 0.0, some expected, none, none⟩

/-- The tail is 0: a negative zero is admitted, and the least positive double is not. -/
theorem tolerance_admits_zeros :
    (tailAtZero (-0.0)).verify.passed = true ∧ (tailAtZero 5e-324).verify.passed = false := by
  have found : lowerTail 2.0 3.0 0.0 = .ok 0.0 := eq_ok_of_toOption (by decide +kernel)
  have compares (expected : Float) : (tailAtZero expected).Compares expected 0.0 :=
    ⟨rfl, rfl, found⟩
  have zero : (-0.0 : Float).isFinite = true := by decide +kernel
  have least : (5e-324 : Float).isFinite = true := by decide +kernel
  constructor
  · have admits := tolerance_admits (compares (-0.0)) zero isFinite_zero
    refine (admits.1 fun _ given => absurd given (Option.not_mem_none _)).mpr ?_
    exact (beq_iff isFinite_zero zero).mp (by decide +kernel)
  · have admits := tolerance_admits (compares 5e-324) least isFinite_zero
    rw [← Bool.not_eq_true, admits.1 fun _ given => absurd given (Option.not_mem_none _)]
    exact mt (beq_iff isFinite_zero least).mpr (by decide +kernel)

end Tolerance

end IncompleteBeta
