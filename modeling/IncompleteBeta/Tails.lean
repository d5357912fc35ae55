/-
**The two tails of the beta distribution.**

The lower tail at `x` is the regularized incomplete beta function `I_x (a, b)`, the upper tail is
`1 - I_x (a, b)`. One of them is computed directly, as a prefactor times a fraction, and the other
is one minus it, so that the small tail never comes from a subtraction that cancels.

* `route`: which tail is direct, and by which fraction;
* `Route.factorsAt`, `Route.evaluate`: the factors of the direct tail, and both tails by that route;
* `tails`: the tails at any point, the ends of the unit interval included;
* `lowerTail`, `upperTail`: the tails with their arguments checked.
-/

import IncompleteBeta.Fraction
import IncompleteBeta.Gamma

namespace IncompleteBeta

open Binary64 (fusedMulAdd)
open Elementary (exp ln lnOnePlus)

variable [Elementary]

/-- One of the two tails. -/
inductive Side where
  | lower
  | upper
deriving DecidableEq, Repr

/-- Both tails at one point. -/
structure Tails where
  lower : Float
  upper : Float
deriving DecidableEq, Repr

def Tails.on (tails : Tails) : Side → Float
  | .lower => tails.lower
  | .upper => tails.upper

def Tails.ofDirect (side : Side) (direct : Float) : Tails :=
  match side with
  | .lower => ⟨direct, 1.0 - direct⟩
  | .upper => ⟨1.0 - direct, direct⟩

/-! ### The prefactor -/

def lnOnePlusRest (t : Float) : Float := lnOnePlus t - t

/-- The exponent of the prefactor around the mean of two large shapes, where the leading terms are
cancelled on paper; none away from the mean. -/
def centralExponent (a b x : Float) : Option Float :=
  if stirlingMin ≤ (if a < b then a else b) then
    let offset := fusedMulAdd (a + b) x (-a)
    let ta := offset / a
    let tb := -offset / b
    if ta.abs ≤ 0.5 && tb.abs ≤ 0.5 then
      let corrections := stirlingCorrection a + stirlingCorrection b - stirlingCorrection (a + b)
      some (a * lnOnePlusRest ta + b * lnOnePlusRest tb
        + 0.5 * (ln a + ln b - ln (a + b)) - halfLnTwoPi - corrections)
    else none
  else none

/-- The exponent of the prefactor as it is defined, with `ln x` and `ln y` each from the exact one
of `x` and `y = 1 - x`. -/
def plainExponent (a b x y lnBeta : Float) : Float :=
  let lnX := if x ≤ 0.5 then ln x else lnOnePlus (-y)
  let lnY := if x < 0.5 then lnOnePlus (-x) else ln y
  a * lnX + b * lnY - lnBeta

/-- The prefactor `x ^ a · y ^ b / B (a, b)`, where `y = 1 - x`. -/
def prefactor (a b x y lnBeta : Float) : Except Cause Float :=
  let value := exp ((centralExponent a b x).getD (plainExponent a b x y lnBeta))
  if value.isFinite then .ok value else .error (.notFinite .prefactor)

/-! ### Routes -/

/-- How a pair of tails is computed. -/
inductive Route where
  | scaled (side : Side) (driving : Float)
  | classical (side : Side)
deriving DecidableEq, Repr

/-- Two shapes above 1 take the scaled fraction, on the side of the mean where `x` lies; other
shapes take the classical one, on the side where it converges fast. The driving value is formed from
the exact one of `x` and `1 - x`. -/
def route (a b x : Float) : Route :=
  if 1.0 < a && 1.0 < b then
    let driving := if x < 0.5 then a - (a + b) * x else (a + b) * (1.0 - x) - b
    if 0.0 ≤ driving then .scaled .lower driving else .scaled .upper (-driving)
  else if x ≤ (a + 1.0) / (a + b + 2.0) then .classical .lower
  else .classical .upper

def Route.side : Route → Side
  | .scaled side _ => side
  | .classical side => side

/-- The two numbers whose product is the direct tail. -/
structure Factors where
  scale : Float
  fraction : Float
deriving DecidableEq, Repr

def Factors.product (factors : Factors) : Float := factors.scale * factors.fraction

/-- The factors of the direct tail of a route, with the shapes and points in its own order: `x` is
the point for the lower tail, and its complement for the upper one. -/
def Route.factors (route : Route) (a b x y lnBeta : Float) : Except Cause Factors := do
  let factor ← prefactor a b x y lnBeta
  match route with
  | .scaled _ driving => return ⟨factor, ← scaledFraction a b x y driving⟩
  | .classical _ => return ⟨factor / a, ← classicalFraction a b x y⟩

/-- The factors of the direct tail at `x`. -/
def Route.factorsAt (route : Route) (a b x lnBeta : Float) : Except Cause Factors :=
  let y := 1.0 - x
  match route.side with
  | .lower => route.factors a b x y lnBeta
  | .upper => route.factors b a y x lnBeta

def Route.evaluate (route : Route) (a b x lnBeta : Float) : Except Cause Tails := do
  let factors ← route.factorsAt a b x lnBeta
  return .ofDirect route.side factors.product

/-! ### Tails -/

/-- The tails at `x`, given the logarithm of the beta function at the shapes. -/
def tails (a b x lnBeta : Float) : Except Cause Tails :=
  if x ≤ 0.0 then .ok ⟨0.0, 1.0⟩
  else if 1.0 ≤ x then .ok ⟨1.0, 0.0⟩
  else (route a b x).evaluate a b x lnBeta

/-- The tails at `x` with the arguments checked, the shapes first. -/
def checkedTails (a b x : Float) : Except Cause Tails := do
  requireShape "a" a
  requireShape "b" b
  requireUnit "x" x
  tails a b x (logBeta a b)

def lowerTail (a b x : Float) : Except Failure Float :=
  attributeTo (.evaluator .lowerTail) ((checkedTails a b x).map Tails.lower)

def upperTail (a b x : Float) : Except Failure Float :=
  attributeTo (.evaluator .upperTail) ((checkedTails a b x).map Tails.upper)

end IncompleteBeta
