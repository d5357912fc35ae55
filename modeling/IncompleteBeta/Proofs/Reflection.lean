/-
**The reflected problem.**

The upper tail of exchanged shapes at `1 - x` is the lower tail at `x`. For shapes above 1 this is
no approximation: the route of the reflected problem has the other side and the same driving value,
so its factors are the same in every bit, wherever `1 - x` loses nothing of `x`.

* `logBeta_comm`: the logarithm of the beta function is symmetric;
* `driving`, `route_of_above`: the value that the route for two shapes above 1 goes by;
* `Reflects`: points that lose nothing when they are reflected, off the two lines where the sides
  meet;
* `driving_reflected`, `route_reflected`: the reflected route;
* **`tails_reflected`**: the tails of the reflected problem are the same, exchanged;
* **`tails_correspond`**: so the two evaluators answer for each other.
-/

import IncompleteBeta.Proofs.Binary64.Nonzero
import IncompleteBeta.Proofs.Causes

namespace IncompleteBeta

open Binary64 (InUnit beq_iff complement_le_half complement_pos eq_of_value_eq finite_of_rounds
  half_le_complement inUnit_complement inUnit_iff inUnit_of_le isFinite_half isFinite_of_le_of_le
  isFinite_one isFinite_zero isNaN_eq isNaN_mul isNaN_sub isNaN_sub_finite le_iff le_iff_isLE
  le_of_lt lt_iff beq_iff_eq_eq neg_difference neg_neg_eq onGrid_one parts parts_neg parts_zero
  rounded_of_onGrid rounded_zero rounds_add rounds_sub sum_comm value value_half value_one
  value_zero)

/-! ### The beta function -/

/-- **The logarithm of the beta function is symmetric**, bit for bit: equal shapes are the same
double, and others are sorted first. -/
theorem logBeta_comm [Elementary] {a b : Float} (shape : IsShape a) (otherShape : IsShape b) :
    logBeta a b = logBeta b a := by
  have less_iff : a < b ↔ value a < value b := lt_iff shape.finite otherShape.finite
  have greater_iff : b < a ↔ value b < value a := lt_iff otherShape.finite shape.finite
  unfold logBeta
  rcases lt_trichotomy (value a) (value b) with less | same | greater
  · rw [if_pos (less_iff.mpr less), if_neg (mt greater_iff.mp less.asymm)]
  · rw [eq_of_value_eq shape.finite otherShape.finite shape.positive.ne' same]
  · rw [if_neg (mt less_iff.mp greater.asymm), if_pos (greater_iff.mpr greater)]

/-! ### The driving value -/

section Driving

variable {a b x : Float}

/-- The value that the route for two shapes above 1 goes by, each side of one half in its own
form. -/
def driving (a b x : Float) : Float :=
  if x < 0.5 then a - (a + b) * x else (a + b) * (1.0 - x) - b

theorem route_of_above (above : 1.0 < a) (otherAbove : 1.0 < b) : route a b x =
    if 0.0 ≤ driving a b x then .scaled .lower (driving a b x)
    else .scaled .upper (-driving a b x) := by
  have both : (decide (1.0 < a) && decide (1.0 < b)) = true := by
    rw [decide_eq_true above, decide_eq_true otherAbove]
    rfl
  exact if_pos both

/-- The driving value is a number: the sum of the shapes may be infinite, but nothing else is. -/
theorem number_driving (finite : a.isFinite = true) (otherFinite : b.isFinite = true)
    (positive : 0.0 < x) (below : x < 1.0) : (driving a b x).isNaN = false := by
  have sum : (a + b).isNaN = false := (rounds_add finite otherFinite).isNaN
  have unit : InUnit x := inUnit_of_le (le_of_lt positive) (le_of_lt below)
  have otherPositive := complement_pos unit.isFinite below
  have complement := (inUnit_complement unit).isFinite
  rw [lt_iff isFinite_zero unit.isFinite, value_zero] at positive
  rw [lt_iff isFinite_zero complement, value_zero] at otherPositive
  unfold driving
  split
  · exact isNaN_sub finite (isNaN_mul sum unit.isFinite positive.ne')
  · exact isNaN_sub_finite (isNaN_mul sum complement otherPositive.ne') otherFinite

end Driving

/-! ### Reflected points -/

/-- **A point that loses nothing when it is reflected**, between shapes above 1 and off the two
lines where the sides meet: one half, where the driving value changes its form, and the mean, where
it vanishes. -/
structure Reflects (a b x : Float) : Prop where
  finite : a.isFinite = true
  otherFinite : b.isFinite = true
  above : 1.0 < a
  otherAbove : 1.0 < b
  positive : 0.0 < x
  below : x < 1.0
  off : (x == 0.5) = false
  exact : (1.0 - (1.0 - x) == x) = true
  driven : (driving a b x == 0.0) = false

theorem isShape_of_one_lt {a : Float} (finite : a.isFinite = true) (above : 1.0 < a) :
    IsShape a := by
  rw [lt_iff isFinite_one finite, value_one] at above
  exact ⟨finite, by linarith⟩

namespace Reflects

variable {a b x : Float} (reflects : Reflects a b x)
include reflects

theorem shape : IsShape a := isShape_of_one_lt reflects.finite reflects.above

theorem otherShape : IsShape b := isShape_of_one_lt reflects.otherFinite reflects.otherAbove

theorem inUnit : InUnit x := inUnit_of_le (le_of_lt reflects.positive) (le_of_lt reflects.below)

theorem inUnit_reflected : InUnit (1.0 - x) := inUnit_complement reflects.inUnit

theorem value_between : 0 < value x ∧ value x < 1 := by
  have finite := reflects.inUnit.isFinite
  have positive := reflects.positive
  have below := reflects.below
  rw [lt_iff isFinite_zero finite, value_zero] at positive
  rw [lt_iff finite isFinite_one, value_one] at below
  exact ⟨positive, below⟩

/-- The point itself comes back, not only a double that is equal to it. -/
theorem reflected_reflected : 1.0 - (1.0 - x) = x := by
  have finite := reflects.inUnit.isFinite
  have otherFinite := (inUnit_complement reflects.inUnit_reflected).isFinite
  have same := (beq_iff otherFinite finite).mp reflects.exact
  exact eq_of_value_eq otherFinite finite (same ▸ reflects.value_between.1.ne') same

/-- The reflected point is inside the unit interval as well. -/
theorem between_reflected : 0.0 < 1.0 - x ∧ 1.0 - x < 1.0 := by
  obtain ⟨finite, nonneg, le_one⟩ := inUnit_iff.mp reflects.inUnit_reflected
  obtain ⟨positive, below⟩ := reflects.value_between
  have rounds := rounds_sub isFinite_one finite
  rw [reflects.reflected_reflected, value_one] at rounds
  obtain ⟨_, value_eq, _⟩ := finite_of_rounds rounds (by linarith) (by linarith)
  rw [lt_iff isFinite_zero finite, lt_iff finite isFinite_one, value_zero, value_one]
  constructor
  · refine lt_of_le_of_ne nonneg fun zero => ?_
    rw [← zero, sub_zero, rounded_of_onGrid onGrid_one] at value_eq
    exact below.ne value_eq
  · refine lt_of_le_of_ne le_one fun one => ?_
    rw [one, sub_self, rounded_zero] at value_eq
    exact positive.ne' value_eq

/-- One half is between the point and the reflected one. -/
theorem reflected_lt_half_iff : 1.0 - x < 0.5 ↔ ¬x < 0.5 := by
  have finite := reflects.inUnit.isFinite
  have otherFinite := reflects.inUnit_reflected.isFinite
  constructor
  · intro less low
    have half := half_le_complement reflects.inUnit (le_of_lt low)
    rw [lt_iff otherFinite isFinite_half] at less
    rw [le_iff isFinite_half otherFinite] at half
    linarith
  · intro high
    have half : 0.5 ≤ x := by
      rw [lt_iff finite isFinite_half] at high
      rw [le_iff isFinite_half finite]
      exact not_lt.mp high
    have low := complement_le_half reflects.inUnit half
    rw [le_iff otherFinite isFinite_half] at low
    rw [lt_iff otherFinite isFinite_half]
    refine lt_of_le_of_ne low fun same => ?_
    have middle := reflects.off
    rw [← reflects.reflected_reflected,
      eq_of_value_eq otherFinite isFinite_half (by rw [same, value_half]; norm_num) same] at middle
    exact absurd middle (by decide +kernel)

theorem isNaN_driving : (driving a b x).isNaN = false :=
  number_driving reflects.finite reflects.otherFinite reflects.positive reflects.below

/-- **The reflected driving value is the opposite one**, bit for bit. -/
theorem driving_reflected : driving b a (1.0 - x) = -driving a b x := by
  have nonzero := reflects.driven
  unfold driving at nonzero ⊢
  rw [reflects.reflected_reflected, sum_comm b a]
  -- The point and its reflection are on different sides of one half, so the forms change places.
  by_cases low : x < 0.5
  · rw [if_pos low] at nonzero ⊢
    rw [if_neg (mt reflects.reflected_lt_half_iff.mp (not_not.mpr low))]
    exact neg_difference nonzero
  · rw [if_neg low] at nonzero ⊢
    rw [if_pos (reflects.reflected_lt_half_iff.mpr low)]
    exact neg_difference nonzero

end Reflects

/-- Of a number that is not 0 and its opposite, one is positive. -/
theorem nonneg_neg_iff {x : Float} (number : x.isNaN = false) (nonzero : (x == 0.0) = false) :
    0.0 ≤ -x ↔ ¬0.0 ≤ x := by
  rw [isNaN_eq] at number
  rw [← Bool.not_eq_true, beq_iff_eq_eq, parts_zero] at nonzero
  rw [le_iff_isLE, le_iff_isLE, parts_neg, parts_zero]
  generalize parts x = u at number nonzero
  cases u with
  | notANumber => cases number
  | infinity sign => cases sign <;> decide
  | zero sign => exact absurd rfl nonzero
  | finite sign m d positive =>
    cases sign with
    | negative => exact iff_of_true rfl Bool.false_ne_true
    | positive => exact iff_of_false Bool.false_ne_true (not_not.mpr rfl)

/-! ### The reflected tails -/

def Side.other : Side → Side
  | .lower => .upper
  | .upper => .lower

def Tails.exchanged (tails : Tails) : Tails := ⟨tails.upper, tails.lower⟩

theorem ofDirect_other (side : Side) (direct : Float) :
    Tails.ofDirect side.other direct = (Tails.ofDirect side direct).exchanged := by
  cases side <;> rfl

theorem tails_of_between [Elementary] {a b x : Float} (positive : 0.0 < x) (below : x < 1.0)
    (lnBeta : Float) : tails a b x lnBeta = (route a b x).evaluate a b x lnBeta := by
  have finite := isFinite_of_le_of_le isFinite_zero isFinite_one (le_of_lt positive)
    (le_of_lt below)
  rw [lt_iff isFinite_zero finite] at positive
  rw [lt_iff finite isFinite_one] at below
  unfold tails
  rw [if_neg, if_neg]
  · rw [le_iff isFinite_one finite]
    exact not_le.mpr below
  · rw [le_iff finite isFinite_zero]
    exact not_le.mpr positive

section Reflected

variable {a b x : Float} (reflects : Reflects a b x)
include reflects

/-- **The reflected route has the other side and the same driving value.** -/
theorem route_reflected : ∃ side driven, route a b x = .scaled side driven ∧
    route b a (1.0 - x) = .scaled side.other driven := by
  rw [route_of_above reflects.above reflects.otherAbove, route_of_above reflects.otherAbove
    reflects.above,
    reflects.driving_reflected]
  have opposite := nonneg_neg_iff reflects.isNaN_driving reflects.driven
  by_cases nonneg : 0.0 ≤ driving a b x
  · refine ⟨.lower, driving a b x, if_pos nonneg, ?_⟩
    rw [if_neg (mt opposite.mp (not_not.mpr nonneg)), neg_neg_eq]
    rfl
  · exact ⟨.upper, -driving a b x, if_neg nonneg, if_pos (opposite.mpr nonneg)⟩

/-- **The tails of the reflected problem are the same, exchanged**, and fail of the same cause, for
any logarithm of the beta function. -/
theorem tails_reflected [Elementary] (lnBeta : Float) :
    tails b a (1.0 - x) lnBeta = (tails a b x lnBeta).map Tails.exchanged := by
  obtain ⟨side, driven, forward, reflected⟩ := route_reflected reflects
  obtain ⟨positive, below⟩ := reflects.between_reflected
  rw [tails_of_between positive below, tails_of_between reflects.positive reflects.below, forward,
    reflected]
  have factors : (Route.scaled side.other driven).factorsAt b a (1.0 - x) lnBeta =
      (Route.scaled side driven).factorsAt a b x lnBeta := by
    unfold Route.factorsAt
    rw [reflects.reflected_reflected]
    cases side with
    | lower => rfl
    | upper => rfl
  unfold Route.evaluate
  rw [factors]
  cases (Route.scaled side driven).factorsAt a b x lnBeta with
  | error cause => rfl
  | ok found => exact congrArg Except.ok (ofDirect_other side found.product)

theorem checkedTails_reflected [Elementary] :
    checkedTails b a (1.0 - x) = (checkedTails a b x).map Tails.exchanged := by
  have forward : checkedTails a b x = tails a b x (logBeta a b) :=
    checked_of_accepted ⟨reflects.shape, reflects.otherShape, reflects.inUnit⟩
  have reflected : checkedTails b a (1.0 - x) = tails b a (1.0 - x) (logBeta b a) :=
    checked_of_accepted ⟨reflects.otherShape, reflects.shape, reflects.inUnit_reflected⟩
  rw [forward, reflected, logBeta_comm reflects.otherShape reflects.shape, tails_reflected reflects]

end Reflected

/-- **The evaluators answer for each other at reflected points**: the lower tail is the upper tail
of the reflected problem and the other way round, bit for bit, or both fail of the same cause, each
in its own name. The shapes enter the logarithm of the beta function and the number of rounds in
either order. -/
theorem tails_correspond [Elementary] :
    (∀ a b x : Float, Reflects a b x →
      Corresponds (.evaluator .lowerTail) (.evaluator .upperTail) (lowerTail a b x)
        (upperTail b a (1.0 - x)) ∧
      Corresponds (.evaluator .upperTail) (.evaluator .lowerTail) (upperTail a b x)
        (lowerTail b a (1.0 - x))) ∧
    (∀ a b : Float, IsShape a → IsShape b → logBeta a b = logBeta b a) ∧
    ∀ a b : Float, roundCap a b = roundCap b a := by
  refine ⟨fun a b x reflects => ?_, fun a b => logBeta_comm, roundCap_comm⟩
  unfold lowerTail upperTail
  rw [checkedTails_reflected reflects]
  cases checkedTails a b x with
  | error cause => exact ⟨.failures cause, .failures cause⟩
  | ok both => exact ⟨.values both.lower, .values both.upper⟩

/-- One quarter is such a point of the shapes 2 and 3, on the lower side of their mean. -/
theorem tails_correspond_quarter : Reflects 2.0 3.0 0.25 ∧
    Corresponds (.evaluator .lowerTail) (.evaluator .upperTail) (lowerTail 2.0 3.0 0.25)
      (upperTail 3.0 2.0 (1.0 - 0.25)) ∧
    IsShape 2.0 ∧ IsShape 3.0 ∧ logBeta 2.0 3.0 = logBeta 3.0 2.0 := by
  have reflects : Reflects 2.0 3.0 0.25 :=
    ⟨rfl, rfl, by decide +kernel, by decide +kernel, by decide +kernel, by decide +kernel,
      by decide +kernel, by decide +kernel, by decide +kernel⟩
  exact ⟨reflects, (tails_correspond.1 2.0 3.0 0.25 reflects).1, reflects.shape,
    reflects.otherShape,
    tails_correspond.2.1 2.0 3.0 reflects.shape reflects.otherShape⟩

end IncompleteBeta
