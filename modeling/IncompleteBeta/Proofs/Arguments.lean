/-
**Arguments that are refused.**

Every evaluator checks its two shapes and then its probability or point, and the first that does not
pass is what the failure is about:

* `IsShape`: the doubles that are accepted as shapes;
* `Offends`: the first argument that is refused, in the order in which they are checked;
* `accepted_or_offends`, `Offends.not_accepted`: there is one exactly where not all are accepted;
* **`checked_of_accepted`**, **`checked_of_offends`**: the checks let everything else through.
-/

import IncompleteBeta.Proofs.Binary64.UnitInterval
import IncompleteBeta.Proofs.Failure

namespace IncompleteBeta

open Binary64 (InUnit inUnit_of_le isFinite_zero lt_iff value value_zero)

/-- **A shape**: a finite positive double. -/
structure IsShape (x : Float) : Prop where
  finite : x.isFinite = true
  positive : 0 < value x

/-- **The first argument that is refused**, in the order in which they are checked, with its own
name and value. -/
inductive Offends (parameter : String) (a b arg : Float) : Cause → Prop where
  | first (refused : ¬IsShape a) : Offends parameter a b arg (.domain "a" a .finitePositive)
  | second (shape : IsShape a) (refused : ¬IsShape b) :
      Offends parameter a b arg (.domain "b" b .finitePositive)
  | last (shape : IsShape a) (otherShape : IsShape b) (refused : ¬InUnit arg) :
      Offends parameter a b arg (.domain parameter arg .unitInterval)

/-! ### The checks -/

section Checks

variable {parameter : String} {a b x : Float} {cause : Cause}

theorem isShape_iff : IsShape x ↔ (x.isFinite && 0.0 < x) = true := by
  rw [Bool.and_eq_true, decide_eq_true_iff]
  constructor
  · rintro ⟨finite, positive⟩
    rw [lt_iff isFinite_zero finite, value_zero]
    exact ⟨finite, positive⟩
  · rintro ⟨finite, positive⟩
    rw [lt_iff isFinite_zero finite, value_zero] at positive
    exact ⟨finite, positive⟩

theorem requireShape_of_isShape (shape : IsShape x) : requireShape parameter x = .ok () :=
  if_pos (isShape_iff.mp shape)

theorem requireShape_of_not_isShape (refused : ¬IsShape x) :
    requireShape parameter x = .error (.domain parameter x .finitePositive) :=
  if_neg (isShape_iff.not.mp refused)

theorem inUnit_iff_between : InUnit x ↔ (0.0 ≤ x && x ≤ 1.0) = true := by
  rw [Bool.and_eq_true, decide_eq_true_iff, decide_eq_true_iff]
  exact ⟨fun unit => ⟨unit.nonneg, unit.le_one⟩, fun ⟨nonneg, le_one⟩ => inUnit_of_le nonneg le_one⟩

theorem requireUnit_of_inUnit (unit : InUnit x) : requireUnit parameter x = .ok () :=
  if_pos (inUnit_iff_between.mp unit)

theorem requireUnit_of_not_inUnit (refused : ¬InUnit x) :
    requireUnit parameter x = .error (.domain parameter x .unitInterval) :=
  if_neg (inUnit_iff_between.not.mp refused)

/-- Arguments are accepted, or one of them is the first to be refused. -/
theorem accepted_or_offends (parameter : String) (a b x : Float) :
    (IsShape a ∧ IsShape b ∧ InUnit x) ∨ ∃ cause, Offends parameter a b x cause := by
  by_cases shape : IsShape a
  · by_cases otherShape : IsShape b
    · by_cases unit : InUnit x
      · exact Or.inl ⟨shape, otherShape, unit⟩
      · exact Or.inr ⟨_, .last shape otherShape unit⟩
    · exact Or.inr ⟨_, .second shape otherShape⟩
  · exact Or.inr ⟨_, .first shape⟩

theorem Offends.not_accepted (offends : Offends parameter a b x cause) :
    ¬(IsShape a ∧ IsShape b ∧ InUnit x) := by
  cases offends with
  | first refused => exact fun accepted => refused accepted.1
  | second _ refused => exact fun accepted => refused accepted.2.1
  | last _ _ refused => exact fun accepted => refused accepted.2.2

theorem Offends.kind (offends : Offends parameter a b x cause) : cause.kind = .domain := by
  cases offends <;> rfl

/-! ### Checked computations -/

variable {α : Type} {result : Except Cause α}

/-- The checks let accepted arguments through. -/
theorem checked_of_accepted (accepted : IsShape a ∧ IsShape b ∧ InUnit x) :
    checked parameter a b x result = result := by
  obtain ⟨shape, otherShape, unit⟩ := accepted
  rw [checked, requireShape_of_isShape shape, requireShape_of_isShape otherShape,
    requireUnit_of_inUnit unit]
  rfl

/-- All numbers of the unit interval pass, under any parameter's name. -/
theorem checked_congr {other : Float} {otherParameter : String} (unit : InUnit x)
    (otherUnit : InUnit other) :
    checked parameter a b x result = checked otherParameter a b other result := by
  rw [checked, checked, requireUnit_of_inUnit unit, requireUnit_of_inUnit otherUnit]

/-- The checks fail of the first argument that is refused. -/
theorem checked_of_offends (offends : Offends parameter a b x cause) :
    checked parameter a b x result = .error cause := by
  unfold checked
  cases offends with
  | first refused =>
    rw [requireShape_of_not_isShape refused]
    rfl
  | second shape refused =>
    rw [requireShape_of_isShape shape, requireShape_of_not_isShape refused]
    rfl
  | last shape otherShape refused =>
    rw [requireShape_of_isShape shape, requireShape_of_isShape otherShape,
      requireUnit_of_not_inUnit refused]
    rfl

end Checks

end IncompleteBeta
