/-
**The two continued fractions of a tail.**

* `roundCap`: how many rounds a fraction gets, a thousand and ten times the spread of the shapes;
* `classicalFraction`: the classical fraction under the modified Lentz method, for shapes of which
  one is at most 1;
* `scaledFraction`: the fraction driven by `λ = a - (a + b) x`, for shapes above 1.

Both settle when a round no longer moves the value, and fail as soon as the value is not finite.
-/

import IncompleteBeta.Failure
import IncompleteBeta.Iteration
import IncompleteBeta.Binary64.Exact

namespace IncompleteBeta

open Binary64 (epsilon)

def minRounds : Nat := 1000

def roundCap (a b : Float) : Nat :=
  let scaled := 10.0 * (a * b / (a + b)).sqrt
  let bounded := if scaled < 1e9 then scaled else 1e9
  minRounds + bounded.toUInt64.toNat

/-! ### The classical fraction -/

/-- The two ratios of the Lentz method, the value so far and the number of the last round. -/
structure LentzState where
  numerator : Float
  denominator : Float
  value : Float
  round : Float

def awayFromZero (v : Float) : Float := if v.abs < 1e-300 then 1e-300 else v

def LentzState.extend (state : LentzState) (coefficient : Float) : LentzState :=
  let denominator := 1.0 / awayFromZero (1.0 + coefficient * state.denominator)
  let numerator := awayFromZero (1.0 + coefficient / state.numerator)
  { state with denominator, numerator, value := state.value * (denominator * numerator) }

def classicalRound (a b x : Float) (state : LentzState) : Step LentzState Cause Float :=
  let sum := a + b
  let m := state.round + 1.0
  let twice := 2.0 * m
  let even := m * (b - m) * x / ((a - 1.0 + twice) * (a + twice))
  let odd := -(a + m) * (sum + m) * x / ((a + twice) * (a + 1.0 + twice))
  let later := (state.extend even).extend odd
  if !later.value.isFinite then .failed (.notFinite .fraction)
  else if (later.denominator * later.numerator - 1.0).abs < epsilon then .settled later.value
  else .next { later with round := m }

/-- The first denominator, `1 - (a + b) x / (a + 1)`, from the exact one of `x` and `y = 1 - x`. -/
def classicalStart (a b x y : Float) : LentzState :=
  let first :=
    if 0.5 < x then ((a + b) * y - (b - 1.0)) / (a + 1.0) else (a + 1.0 - (a + b) * x) / (a + 1.0)
  let denominator := 1.0 / awayFromZero first
  { numerator := 1.0, denominator, value := denominator, round := 0.0 }

/-- The classical fraction of the tail at `x`, where `y = 1 - x`. -/
def classicalFraction (a b x y : Float) : Except Cause Float :=
  let cap := roundCap a b
  iterate (classicalRound a b x) (.noConvergence cap) cap (classicalStart a b x y)

/-! ### The scaled fraction -/

/-- Two consecutive convergents, scaled so that the later denominator is 1, with the quantities that
carry from one round to the next. -/
structure ScaledState where
  round : Float
  p : Float
  s : Float
  olderTop : Float
  olderBottom : Float
  top : Float
  bottom : Float
  value : Float

/-- One round: the recurrence for both convergents, then the scaling. -/
def scaledRound (a b x y driving : Float) (state : ScaledState) : Step ScaledState Cause Float :=
  let c := driving + 1.0
  let c0 := b / a
  let c1 := 1.0 / a + 1.0
  let n := state.round + 1.0
  let t := n / a
  let w := n * (b - n) * x
  let e := a / state.s
  let alpha := state.p * (state.p + c0) * e * e * (w * x)
  let e := (t + 1.0) / (c1 + t + t)
  let beta := n + w / state.s + e * (c + n * (y + 1.0))
  let top := alpha * state.olderTop + beta * state.top
  let bottom := alpha * state.olderBottom + beta * state.bottom
  let value := top / bottom
  if !value.isFinite then .failed (.notFinite .fraction)
  else if (value - state.value).abs ≤ epsilon * value then .settled value
  else
    .next { round := n, p := t + 1.0, s := state.s + 2.0,
            olderTop := state.top / bottom, olderBottom := state.bottom / bottom,
            top := value, bottom := 1.0, value }

def scaledStart (a driving : Float) : ScaledState :=
  let c := driving + 1.0
  let c1 := 1.0 / a + 1.0
  { round := 0.0, p := 1.0, s := a + 1.0, olderTop := 0.0, olderBottom := 1.0,
    top := 1.0, bottom := c / c1, value := c1 / c }

/-- The fraction of the tail at `x` driven by `λ`, where `y = 1 - x`. -/
def scaledFraction (a b x y driving : Float) : Except Cause Float :=
  let cap := roundCap a b
  iterate (scaledRound a b x y driving) (.noConvergence cap) cap (scaledStart a driving)

end IncompleteBeta
