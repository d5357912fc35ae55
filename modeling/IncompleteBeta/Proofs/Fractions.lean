/-
**Where the fractions are entered, and what they never return.**

The driving value of two shapes above 1 is a number wherever the point is strictly inside the unit
interval, also where the sum of the shapes overflows; so one of it and its opposite is at least 0,
and the scaled fraction is only entered with that. What a fraction or the prefactor returns has
passed its check, and the first value that does not pass it is the end.

* `Drives`, `Enters`: where the scaled fraction is valid, and how a route enters its fraction;
* **`enters_route`**: routes enter their fractions so;
* `Guarded.tails`, **`Guarded.tails_eq`**: the tails by fractions that break off where they are not
  valid or divide by zero;
* `Checks`, `Watched`: a round that checks its value, and a result that was checked;
* **`watched_iterate`**: an iteration of such rounds is checked;
* **`fractions_guarded`**: all of it, at all shapes and points.
-/

import IncompleteBeta.Proofs.Divisors
import IncompleteBeta.Proofs.Pairing
import IncompleteBeta.Proofs.Tails

namespace IncompleteBeta

open Binary64 (beq_iff_eq_eq epsilon isNaN_eq le_of_beq parts parts_neg)
open Elementary (exp)

section Elementary

variable [Elementary]

/-! ### Entering a fraction -/

/-- **Where the scaled fraction is valid**: both shapes above 1, and a driving value that is a
number, at least 0. -/
structure Drives (a b driving : Float) : Prop where
  above : 1.0 < a
  otherAbove : 1.0 < b
  number : driving.isNaN = false
  nonneg : 0.0 ≤ driving

instance (a b driving : Float) : Decidable (Drives a b driving) :=
  decidable_of_iff (1.0 < a ∧ 1.0 < b ∧ driving.isNaN = false ∧ 0.0 ≤ driving)
    ⟨fun ⟨above, otherAbove, number, nonneg⟩ => ⟨above, otherAbove, number, nonneg⟩,
      fun drives => ⟨drives.above, drives.otherAbove, drives.number, drives.nonneg⟩⟩

/-- **How a route enters its fraction**: the scaled one where it is valid, with the shapes in the
order of the side, and the classical one for all other shapes. -/
inductive Enters (a b x : Float) : Route → Prop where
  | scaledLower (drives : Drives a b (driving a b x)) :
      Enters a b x (.scaled .lower (driving a b x))
  | scaledUpper (drives : Drives b a (-driving a b x)) :
      Enters a b x (.scaled .upper (-driving a b x))
  | classical (low_shape : ¬(1.0 < a ∧ 1.0 < b)) (side : Side) : Enters a b x (.classical side)

section Enters

variable {a b x y lnBeta : Float} {route : Route}

omit [Elementary] in
theorem isNaN_neg (x : Float) : (-x).isNaN = x.isNaN := by
  rw [isNaN_eq, isNaN_eq, parts_neg]
  cases parts x <;> rfl

omit [Elementary] in
/-- **Routes enter their fractions so**, at every point strictly inside the unit interval. -/
theorem enters_route (shape : IsShape a) (otherShape : IsShape b) (positive : 0.0 < x)
    (below : x < 1.0) : Enters a b x (IncompleteBeta.route a b x) := by
  by_cases above : 1.0 < a ∧ 1.0 < b
  · have number := number_driving shape.finite otherShape.finite positive below
    rw [route_of_above above.1 above.2]
    by_cases nonneg : 0.0 ≤ driving a b x
    · rw [if_pos nonneg]
      exact .scaledLower ⟨above.1, above.2, number, nonneg⟩
    · have nonzero : (driving a b x == 0.0) = false :=
        Bool.eq_false_iff.mpr fun zero => nonneg (le_of_beq zero).2
      have otherNonneg := (nonneg_neg_iff number nonzero).mpr nonneg
      rw [if_neg nonneg]
      exact .scaledUpper ⟨above.2, above.1, by rw [isNaN_neg, number], otherNonneg⟩
  · rw [route_of_low_shape above]
    split
    · exact .classical above .lower
    · exact .classical above .upper

end Enters

/-! ### Tails that break off -/

namespace Guarded

/-- **The scaled fraction, where it is valid.** -/
def scaledFraction (a b x y driving : Float) : Option (Except Cause Float) :=
  if Drives a b driving then some (IncompleteBeta.scaledFraction a b x y driving) else none

/-- The factors of the direct tail, by fractions that break off; the classical one is not entered
for two shapes above 1. -/
def factors (route : Route) (a b x y lnBeta : Float) : Option (Except Cause Factors) :=
  match prefactor a b x y lnBeta with
  | .error cause => some (.error cause)
  | .ok factor =>
    match route with
    | .scaled _ driving =>
      (scaledFraction a b x y driving).map fun found => found.map fun fraction => ⟨factor, fraction⟩
    | .classical _ =>
      if 1.0 < a ∧ 1.0 < b then none
      else (classicalFraction a b x y).map fun found =>
        found.map fun fraction => ⟨factor / a, fraction⟩

def factorsAt (route : Route) (a b x lnBeta : Float) : Option (Except Cause Factors) :=
  match route.side with
  | .lower => factors route a b x (1.0 - x) lnBeta
  | .upper => factors route b a (1.0 - x) x lnBeta

/-- **The tails at a point, by fractions that break off.** -/
def tails (a b x lnBeta : Float) : Option (Except Cause Tails) :=
  if x ≤ 0.0 then some (.ok ⟨0.0, 1.0⟩)
  else if 1.0 ≤ x then some (.ok ⟨1.0, 0.0⟩)
  else (factorsAt (route a b x) a b x lnBeta).map fun found =>
    found.map fun factors => .ofDirect (route a b x).side factors.product

section Tails

variable {a b x y lnBeta driving : Float} {route : Route}

theorem factors_scaled (side : Side) (drives : Drives a b driving) :
    factors (.scaled side driving) a b x y lnBeta =
      some ((Route.scaled side driving).factors a b x y lnBeta) := by
  unfold factors Route.factors
  cases prefactor a b x y lnBeta with
  | error cause => rfl
  | ok factor =>
    dsimp only
    rw [scaledFraction, if_pos drives]
    cases IncompleteBeta.scaledFraction a b x y driving <;> rfl

theorem factors_classical (side : Side) (shape : IsShape a) (otherShape : IsShape b)
    (low_shape : ¬(1.0 < a ∧ 1.0 < b)) :
    factors (.classical side) a b x y lnBeta =
      some ((Route.classical side).factors a b x y lnBeta) := by
  unfold factors Route.factors
  cases prefactor a b x y lnBeta with
  | error cause => rfl
  | ok factor =>
    dsimp only
    rw [if_neg low_shape, classicalFraction_eq shape otherShape]
    cases IncompleteBeta.classicalFraction a b x y <;> rfl

/-- **No factor breaks off** on a route that enters its fraction where that is valid. -/
theorem factorsAt_eq (shape : IsShape a) (otherShape : IsShape b) (enters : Enters a b x route) :
    factorsAt route a b x lnBeta = some (route.factorsAt a b x lnBeta) := by
  cases enters with
  | scaledLower drives => exact factors_scaled .lower drives
  | scaledUpper drives => exact factors_scaled .upper drives
  | classical low_shape side =>
    cases side with
    | lower => exact factors_classical .lower shape otherShape low_shape
    | upper => exact factors_classical .upper otherShape shape fun above => low_shape above.symm

/-- **The tails do not break off**, at any shapes and strictly inside the unit interval. -/
theorem tails_eq (shape : IsShape a) (otherShape : IsShape b) (positive : 0.0 < x) (below : x < 1.0)
    (lnBeta : Float) : tails a b x lnBeta = some (IncompleteBeta.tails a b x lnBeta) := by
  have enters := enters_route shape otherShape positive below
  unfold tails IncompleteBeta.tails
  rw [factorsAt_eq shape otherShape enters]
  split_ifs
  · rfl
  · rfl
  · unfold Route.evaluate
    cases (IncompleteBeta.route a b x).factorsAt a b x lnBeta <;> rfl

end Tails

end Guarded

/-! ### Checked values -/

/-- **A result that was watched**: what is returned was running and is finite, and a value that was
running and is not finite is the failure. -/
structure Watched (running : Float → Prop) (quantity : Quantity) (result : Except Cause Float) :
    Prop where
  returned : ∀ v, result = .ok v → running v ∧ v.isFinite = true
  caught : ∀ v, running v → v.isFinite = false →
    result = .error (.notFinite quantity) ∧ (Cause.notFinite quantity).kind = .evaluation

/-- **A round that checks its value** before anything is made of it. -/
structure Checks {σ : Type} (step : σ → Step σ Cause Float) (value : σ → Float) : Prop where
  settled : ∀ state answer, step state = .settled answer →
    answer = value state ∧ answer.isFinite = true
  failed : ∀ state, (value state).isFinite = false → step state = .failed (.notFinite .fraction)

/-- The values of the rounds that are reached before all are used up. -/
def Runs {σ : Type} (step : σ → Step σ Cause Float) (start : σ) (value : σ → Float)
    (rounds : Nat) (v : Float) : Prop :=
  ∃ n < rounds, ∃ state, Iterated step start n state ∧ v = value state

section Checks

variable {σ : Type} {step : σ → Step σ Cause Float} {value : σ → Float}

omit [Elementary] in
/-- A round that fails where its value is not finite, and else settles or goes on, checks it. -/
theorem checks_of_eq {close : σ → Prop} [∀ state, Decidable (close state)] {later : σ → σ}
    (step_eq : ∀ state, step state =
      if !(value state).isFinite then .failed (.notFinite .fraction)
      else if close state then .settled (value state) else .next (later state)) :
    Checks step value := by
  constructor
  · intro state answer settles
    rw [step_eq] at settles
    have finite := isFinite_of_settled settles
    split_ifs at settles
    cases settles
    exact ⟨rfl, finite⟩
  · intro state infinite
    rw [step_eq, infinite]
    rfl

omit [Elementary] in
/-- **An iteration of rounds that check their value is watched.** -/
theorem watched_iterate (checks : Checks step value) (exhausted : Cause) (rounds : Nat)
    (start : σ) :
    Watched (Runs step start value rounds) .fraction (iterate step exhausted rounds start) := by
  constructor
  · intro v returns
    obtain ⟨n, within, last, iterated, settles⟩ := iterated_of_iterate returns
    obtain ⟨rfl, finite⟩ := checks.settled last v settles
    exact ⟨⟨n, within, last, iterated, rfl⟩, finite⟩
  · rintro v ⟨n, within, state, iterated, rfl⟩ infinite
    exact ⟨iterate_of_iterated_failed iterated within (checks.failed state infinite), rfl⟩

end Checks

/-- The prefactor before its check. -/
def prefactorValue (a b x y lnBeta : Float) : Float :=
  exp ((centralExponent a b x).getD (plainExponent a b x y lnBeta))

/-- A round of the classical fraction as it comes to its check. -/
def classicalChecked (a b x : Float) (state : LentzState) : LentzState :=
  let m := state.round + 1.0
  let twice := 2.0 * m
  let even := m * (b - m) * x / ((a - 1.0 + twice) * (a + twice))
  let odd := -(a + m) * (a + b + m) * x / ((a + twice) * (a + 1.0 + twice))
  (state.extend even).extend odd

/-- The convergent of a round of the scaled fraction as it comes to its check. -/
def scaledChecked (a b x y driving : Float) (state : ScaledState) : Float :=
  let n := state.round + 1.0
  let t := n / a
  let w := n * (b - n) * x
  let e := a / state.s
  let alpha := state.p * (state.p + b / a) * e * e * (w * x)
  let beta :=
    n + w / state.s + (t + 1.0) / (1.0 / a + 1.0 + t + t) * (driving + 1.0 + n * (y + 1.0))
  (alpha * state.olderTop + beta * state.top) / (alpha * state.olderBottom + beta * state.bottom)

section Watched

variable (a b x y lnBeta driving : Float)

/-- **The prefactor is watched**: it is its own running value. -/
theorem watched_prefactor :
    Watched (· = prefactorValue a b x y lnBeta) .prefactor (prefactor a b x y lnBeta) := by
  have prefactor_eq : prefactor a b x y lnBeta =
      if (prefactorValue a b x y lnBeta).isFinite then .ok (prefactorValue a b x y lnBeta)
      else .error (.notFinite .prefactor) := rfl
  constructor
  · intro v returns
    have finite := isFinite_prefactor returns
    rw [prefactor_eq] at returns
    split_ifs at returns
    cases returns
    exact ⟨rfl, finite⟩
  · rintro v rfl infinite
    rw [prefactor_eq, infinite]
    exact ⟨rfl, rfl⟩

omit [Elementary] in
theorem watched_classicalFraction :
    Watched (Runs (classicalRound a b x) (classicalStart a b x y)
      (fun state => (classicalChecked a b x state).value) (roundCap a b)) .fraction
      (classicalFraction a b x y) :=
  watched_iterate (checks_of_eq fun _ => rfl) _ _ _

omit [Elementary] in
theorem watched_scaledFraction :
    Watched (Runs (scaledRound a b x y driving) (scaledStart a driving)
      (scaledChecked a b x y driving) (roundCap a b)) .fraction
      (scaledFraction a b x y driving) :=
  watched_iterate (checks_of_eq fun _ => rfl) _ _ _

end Watched

/-- **The fractions are entered only where they are valid, and return nothing that is not finite.**
Strictly inside the unit interval the scaled fraction is entered only for two shapes above 1 and
with a driving value that is a number, at least 0, and the classical one for all other shapes;
tails that break off elsewhere, or at a zero divisor of the classical fraction, do not break off. No
shapes and points bring such a divisor about. Whatever the arguments, what the fractions and the
prefactor return is finite, and the first running value that is not finite is a failure of the
evaluation. -/
theorem fractions_guarded :
    (∀ a b x lnBeta : Float, IsShape a → IsShape b → 0.0 < x → x < 1.0 →
      Enters a b x (route a b x) ∧
        Guarded.tails a b x lnBeta = some (tails a b x lnBeta)) ∧
    (∀ a b x y : Float, IsShape a → IsShape b →
      Guarded.classicalFraction a b x y = some (classicalFraction a b x y)) ∧
    ∀ a b x y lnBeta driving : Float,
      Watched (· = prefactorValue a b x y lnBeta) .prefactor (prefactor a b x y lnBeta) ∧
      Watched (Runs (classicalRound a b x) (classicalStart a b x y)
        (fun state => (classicalChecked a b x state).value) (roundCap a b)) .fraction
        (classicalFraction a b x y) ∧
      Watched (Runs (scaledRound a b x y driving) (scaledStart a driving)
        (scaledChecked a b x y driving) (roundCap a b)) .fraction
        (scaledFraction a b x y driving) := by
  refine ⟨fun a b x lnBeta shape otherShape positive below => ?_,
    fun a b x y shape otherShape => Guarded.classicalFraction_eq shape otherShape x y,
    fun a b x y lnBeta driving => ?_⟩
  · exact ⟨enters_route shape otherShape positive below,
      Guarded.tails_eq shape otherShape positive below lnBeta⟩
  · exact ⟨watched_prefactor a b x y lnBeta, watched_classicalFraction a b x y,
      watched_scaledFraction a b x y driving⟩

end Elementary

/-- Shapes whose sum and product overflow enter the scaled fraction with an infinite driving
value. -/
theorem fractions_guarded_overflow :
    IsShape 1e308 ∧ (1e308 + 1e308 : Float).isFinite = false ∧
      (1e308 * 1e308 : Float).isFinite = false ∧
      Enters 1e308 1e308 0.25 (route 1e308 1e308 0.25) ∧
      Guarded.tails 1e308 1e308 0.25 0.0 = some (tails 1e308 1e308 0.25 0.0) ∧
      Guarded.classicalFraction 1e308 1e308 0.25 0.75 =
        some (classicalFraction 1e308 1e308 0.25 0.75) := by
  have shape : IsShape 1e308 := isShape_iff.mpr (by decide +kernel)
  obtain ⟨enters, tails_eq⟩ := fractions_guarded.1 1e308 1e308 0.25 0.0 shape shape
    (by decide +kernel) (by decide +kernel)
  exact ⟨shape, by decide +kernel, by decide +kernel, enters, tails_eq,
    fractions_guarded.2.1 1e308 1e308 0.25 0.75 shape shape⟩

end IncompleteBeta
