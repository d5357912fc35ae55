/-
**The real number of a double.**

* `parts`, `value`: a double unpacked, and the real number it stands for;
* `bounds_of_full`, `bounds_of_digits`: how large numbers with a given exponent are;
* **`le_iff`**, **`lt_iff`**, **`beq_iff`**: finite doubles are compared as their numbers are;
* `isFinite_of_le_of_le`: what lies between finite doubles is finite.
-/

import IncompleteBeta.Proofs.Binary64.Grid
import IncompleteBeta.Proofs.Binary64.Packing
import Mathlib.Order.Compare

namespace IncompleteBeta.Binary64

open Float.Model (UnpackedFloat Format)
open Float.Model.UnpackedFloat (Sign)

/-- A double unpacked. -/
def parts (x : Float) : UnpackedFloat := x.toModel.unpack

/-- A magnitude with a sign. -/
noncomputable def signed : Sign → ℝ → ℝ
  | .positive, v => v
  | .negative, v => -v

/-- That 2 is a numeral of the reals, as a fact with a name. Definitions that use it do not make one
of their own. -/
theorem atLeastTwo_two : Nat.AtLeastTwo 2 := inferInstance

attribute [local instance] atLeastTwo_two in
/-- The real number of an unpacked double; 0 where there is none. -/
noncomputable def realOf : UnpackedFloat → ℝ
  | .finite sign mantissa exponent _ => signed sign (mantissa * 2 ^ exponent)
  | _ => 0

/-- **The real number of a double**; 0 where there is none. -/
noncomputable def value (x : Float) : ℝ := realOf (parts x)

theorem canonical_parts (x : Float) : Canonical (parts x) := canonical_unpack _

theorem isFinite_eq (x : Float) : x.isFinite = (parts x).isFinite := rfl

theorem isNaN_eq (x : Float) : x.isNaN = (parts x).isNaN := rfl

/-! ### Sizes -/

section Sizes

variable {mantissa : Nat} (exponent : ℤ)

theorem bounds_of_digits (digits : mantissa < 2 ^ 53) :
    (mantissa : ℝ) * 2 ^ exponent < 2 ^ (exponent + 53) := by
  have cast : (mantissa : ℝ) < 2 ^ 53 := by exact_mod_cast digits
  calc (mantissa : ℝ) * 2 ^ exponent < 2 ^ 53 * 2 ^ exponent :=
        mul_lt_mul_of_pos_right cast (by positivity)
    _ = 2 ^ (exponent + 53) := by
        rw [add_comm, zpow_add₀ (by norm_num)]
        norm_num

theorem bounds_of_full (full : 2 ^ 52 ≤ mantissa) :
    (2 : ℝ) ^ (exponent + 52) ≤ mantissa * 2 ^ exponent := by
  have cast : (2 : ℝ) ^ 52 ≤ mantissa := by exact_mod_cast full
  calc (2 : ℝ) ^ (exponent + 52) = 2 ^ 52 * 2 ^ exponent := by
        rw [add_comm, zpow_add₀ (by norm_num)]
        norm_num
    _ ≤ mantissa * 2 ^ exponent := mul_le_mul_of_nonneg_right cast (by positivity)

end Sizes

/-! ### Order -/

section Order

/-- Full mantissas over different exponents are compared by these, and others by themselves. -/
theorem compares_magnitudes {m n : Nat} {d e : ℤ} (digits : m < 2 ^ 53) (otherDigits : n < 2 ^ 53)
    (full : 2 ^ 52 ≤ m ∨ d = -1074) (otherFull : 2 ^ 52 ≤ n ∨ e = -1074) (least : -1074 ≤ d)
    (otherLeast : -1074 ≤ e) :
    ((compare d e).then (compare m n)).Compares ((m : ℝ) * 2 ^ d) (n * 2 ^ e) := by
  rcases lt_trichotomy d e with less | same | more
  · rw [Int.compare_eq_lt.mpr less]
    show (m : ℝ) * 2 ^ d < n * 2 ^ e
    calc (m : ℝ) * 2 ^ d < 2 ^ (d + 53) := bounds_of_digits d digits
      _ ≤ 2 ^ (e + 52) := zpow_le_zpow_right₀ (by norm_num) (by omega)
      _ ≤ n * 2 ^ e := bounds_of_full e (otherFull.resolve_right (by omega))
  · rw [Int.compare_eq_eq.mpr same, same]
    have positive : (0 : ℝ) < 2 ^ e := by positivity
    show (compare m n).Compares _ _
    rcases lt_trichotomy m n with less | same | more
    · rw [Nat.compare_eq_lt.mpr less]
      exact mul_lt_mul_of_pos_right (by exact_mod_cast less) positive
    · rw [Nat.compare_eq_eq.mpr same, same]
      rfl
    · rw [Nat.compare_eq_gt.mpr more]
      exact mul_lt_mul_of_pos_right (by exact_mod_cast more) positive
  · rw [Int.compare_eq_gt.mpr more]
    show (n : ℝ) * 2 ^ e < m * 2 ^ d
    calc (n : ℝ) * 2 ^ e < 2 ^ (e + 53) := bounds_of_digits e otherDigits
      _ ≤ 2 ^ (d + 52) := zpow_le_zpow_right₀ (by norm_num) (by omega)
      _ ≤ m * 2 ^ d := bounds_of_full d (full.resolve_right (by omega))

/-- A comparison of unpacked doubles has the outcome of the comparison of their numbers. -/
def ComparesAs (u v : UnpackedFloat) : Prop :=
  ∃ ordering, u.compare v = some ordering ∧ ordering.Compares (realOf u) (realOf v)

section Signs

variable {sign otherSign : Sign} {m n : Nat} {d e : ℤ} {positive : 0 < m} {otherPositive : 0 < n}

theorem comparesAs_zero_finite : ComparesAs (.zero otherSign) (.finite sign m d positive) := by
  have size : (0 : ℝ) < m * 2 ^ d := by positivity
  cases sign with
  | positive =>
    refine ⟨.lt, rfl, ?_⟩
    exact size
  | negative =>
    refine ⟨.gt, rfl, ?_⟩
    exact neg_lt_zero.mpr size

theorem comparesAs_finite_zero : ComparesAs (.finite sign m d positive) (.zero otherSign) := by
  have size : (0 : ℝ) < m * 2 ^ d := by positivity
  cases sign with
  | positive =>
    refine ⟨.gt, rfl, ?_⟩
    exact size
  | negative =>
    refine ⟨.lt, rfl, ?_⟩
    exact neg_lt_zero.mpr size

/-- Numbers that are not 0 are compared by their signs first, and by their magnitudes then. -/
theorem comparesAs_finite_finite
    (magnitudes : ((compare d e).then (compare m n)).Compares ((m : ℝ) * 2 ^ d) (n * 2 ^ e)) :
    ComparesAs (.finite sign m d positive) (.finite otherSign n e otherPositive) := by
  have size : (0 : ℝ) < m * 2 ^ d := by positivity
  have otherSize : (0 : ℝ) < n * 2 ^ e := by positivity
  cases sign with
  | positive =>
    cases otherSign with
    | positive =>
      exact ⟨_, rfl, magnitudes⟩
    | negative =>
      refine ⟨.gt, rfl, ?_⟩
      show -((n : ℝ) * 2 ^ e) < m * 2 ^ d
      linarith
  | negative =>
    cases otherSign with
    | positive =>
      refine ⟨.lt, rfl, ?_⟩
      show -((m : ℝ) * 2 ^ d) < n * 2 ^ e
      linarith
    | negative =>
      refine ⟨_, rfl, ?_⟩
      show ((compare d e).then (compare m n)).swap.Compares (-((m : ℝ) * 2 ^ d)) (-(n * 2 ^ e))
      generalize (compare d e).then (compare m n) = ordering at magnitudes ⊢
      cases ordering with
      | lt => exact neg_lt_neg magnitudes
      | eq => exact congrArg Neg.neg magnitudes
      | gt => exact neg_lt_neg magnitudes

end Signs

/-- **Finite doubles are compared as their numbers are.** -/
theorem comparesAs_of_isFinite {u v : UnpackedFloat} (canonical : Canonical u)
    (otherCanonical : Canonical v) (finite : u.isFinite = true) (otherFinite : v.isFinite = true) :
    ComparesAs u v := by
  cases canonical with
  | notANumber => cases finite
  | infinity sign => cases finite
  | zero sign =>
    cases otherCanonical with
    | notANumber => cases otherFinite
    | infinity otherSign => cases otherFinite
    | zero otherSign => exact ⟨.eq, rfl, rfl⟩
    | finite otherSign n e otherPositive => exact comparesAs_zero_finite
  | finite sign m d positive digits full least =>
    cases otherCanonical with
    | notANumber => cases otherFinite
    | infinity otherSign => cases otherFinite
    | zero otherSign => exact comparesAs_finite_zero
    | finite otherSign n e otherPositive otherDigits otherFull otherLeast =>
      exact comparesAs_finite_finite
        (compares_magnitudes digits otherDigits full otherFull least otherLeast)

section Doubles

variable {x y : Float}

theorem le_iff_isLE : x ≤ y ↔ ((parts x).compare (parts y)).any (·.isLE) = true := by
  show decide (x.toModel ≤ y.toModel) = true ↔ _
  rw [decide_eq_true_iff]
  rfl

theorem lt_iff_eq_lt : x < y ↔ (parts x).compare (parts y) = some .lt := by
  show decide (x.toModel < y.toModel) = true ↔ _
  rw [decide_eq_true_iff]
  exact beq_iff_eq

theorem beq_iff_eq_eq : (x == y) = true ↔ (parts x).compare (parts y) = some .eq := by
  show ((parts x).compare (parts y) == some .eq) = true ↔ _
  exact beq_iff_eq

theorem le_iff_lt_or_beq : x ≤ y ↔ x < y ∨ (x == y) = true := by
  rw [le_iff_isLE, lt_iff_eq_lt, beq_iff_eq_eq]
  cases (parts x).compare (parts y) with
  | none => exact iff_of_false nofun fun either => either.elim nofun nofun
  | some ordering => cases ordering <;> simp

variable (finite : x.isFinite = true) (otherFinite : y.isFinite = true)
include finite otherFinite

theorem le_iff : x ≤ y ↔ value x ≤ value y := by
  obtain ⟨ordering, outcome, compares⟩ :=
    comparesAs_of_isFinite (canonical_parts x) (canonical_parts y) finite otherFinite
  rw [le_iff_isLE, outcome]
  show ordering.isLE = true ↔ _
  rw [← Ordering.ne_gt_iff_isLE]
  exact compares.ne_gt

theorem lt_iff : x < y ↔ value x < value y := by
  obtain ⟨ordering, outcome, compares⟩ :=
    comparesAs_of_isFinite (canonical_parts x) (canonical_parts y) finite otherFinite
  rw [lt_iff_eq_lt, outcome, Option.some_inj]
  exact compares.eq_lt

theorem beq_iff : (x == y) = true ↔ value x = value y := by
  obtain ⟨ordering, outcome, compares⟩ :=
    comparesAs_of_isFinite (canonical_parts x) (canonical_parts y) finite otherFinite
  rw [beq_iff_eq_eq, outcome, Option.some_inj]
  exact compares.eq_eq

end Doubles

/-- What is not above a finite double is finite or negative infinity. -/
theorem finite_or_negative {x y : Float} (finite : y.isFinite = true) (le : x ≤ y) :
    x.isFinite = true ∨ parts x = .infinity .negative := by
  rw [le_iff_isLE] at le
  rw [isFinite_eq] at finite ⊢
  generalize parts x = u at le ⊢
  generalize parts y = v at le finite
  cases u with
  | notANumber => cases le
  | zero sign => exact Or.inl rfl
  | finite sign m e positive => exact Or.inl rfl
  | infinity sign =>
    cases sign with
    | negative => exact Or.inr rfl
    | positive =>
      cases v with
      | notANumber => cases finite
      | infinity sign => cases finite
      | zero sign => cases le
      | finite sign m e positive => cases le

/-- **What lies between finite doubles is finite.** -/
theorem isFinite_of_le_of_le {x y z : Float} (finite : x.isFinite = true)
    (otherFinite : z.isFinite = true) (le : x ≤ y) (otherLe : y ≤ z) : y.isFinite = true := by
  rcases finite_or_negative otherFinite otherLe with done | negative
  · exact done
  · rw [le_iff_isLE, negative] at le
    rw [isFinite_eq] at finite
    generalize parts x = u at le finite
    cases u with
    | notANumber => cases finite
    | infinity sign => cases finite
    | zero sign => cases le
    | finite sign m e positive => cases sign <;> cases le

theorem le_of_lt {x y : Float} (less : x < y) : x ≤ y := by
  rw [le_iff_isLE, lt_iff_eq_lt.mp less]
  rfl

/-- What is not a number is not below anything. -/
theorem not_le_of_isNaN {x y : Float} (notANumber : x.isNaN = true) : ¬ x ≤ y := by
  rw [le_iff_isLE]
  rw [isNaN_eq] at notANumber
  generalize parts x = u at notANumber ⊢
  cases u with
  | notANumber => exact Bool.false_ne_true
  | infinity sign => cases notANumber
  | zero sign => cases notANumber
  | finite sign m e positive => cases notANumber

/-- Finite doubles are numbers. -/
theorem isNaN_of_isFinite {x : Float} (finite : x.isFinite = true) : x.isNaN = false := by
  rw [isFinite_eq] at finite
  rw [isNaN_eq]
  generalize parts x = u at finite ⊢
  cases u with
  | notANumber => cases finite
  | infinity sign => rfl
  | zero sign => rfl
  | finite sign m e positive => rfl

end Order

end IncompleteBeta.Binary64
