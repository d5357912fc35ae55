/-
**The inverses of the tails.**

Given shapes and a tail, the quantile is the point with that tail. It is found by a bracketed Newton
iteration on the logarithm of the tail, from a first guess by an approximation; a root above one
half is sought as the root below one half of the reflected problem, so that the complement keeps its
relative precision.

* `firstGuess`: where the search starts;
* `Search.newton`: the point that a Newton step proposes;
* `Approximations`: the logarithms, tails, proposals and guesses that a search goes by, and
  `Approximations.standard`, those of this library;
* `Bracket`, `Approximations.round`: the bracket and one round of the search;
* `Approximations.solve`, `Approximations.invert`: the search itself and the inverse by it;
* `solve`, `invert`, `quantile`, `upperQuantile`: the same by the standard approximations, the last
  two with their arguments checked.
-/

import IncompleteBeta.Tails

namespace IncompleteBeta

open Binary64 (epsilon minPositive nan)
open Elementary (exp ln lnOnePlus rpow)

variable [Elementary]

/-! ### The first guess -/

/-- The guess for shapes from 1 on, by the normal approximation. -/
def normalGuess (a b p q : Float) : Float :=
  let t := (-2.0 * ln (if p < 0.5 then p else q)).sqrt
  let deviate := (2.30753 + t * 0.27061) / (1.0 + t * (0.99229 + t * 0.04481)) - t
  let s := if p < 0.5 then -deviate else deviate
  let lam := (s * s - 3.0) / 6.0
  let ra := 1.0 / (2.0 * a - 1.0)
  let rb := 1.0 / (2.0 * b - 1.0)
  let h := 2.0 / (ra + rb)
  let w := s * (h + lam).sqrt / h - (rb - ra) * (lam + 5.0 / 6.0 - 2.0 / (3.0 * h))
  a / (a + b * exp (2.0 * w))

/-- The guess for other shapes, by the leading power of the nearer tail. -/
def powerGuess (a b p q : Float) : Float :=
  let t := exp (a * ln (a / (a + b))) / a
  let u := exp (b * ln (b / (a + b))) / b
  let w := t + u
  if p < t / w then rpow (a * w * p) (1.0 / a) else 1.0 - rpow (b * w * q) (1.0 / b)

/-- The first guess for the point whose tails are `p` and `q`. -/
def firstGuess (a b p q : Float) : Float :=
  if 1.0 ≤ a && 1.0 ≤ b then normalGuess a b p q else powerGuess a b p q

/-! ### The search -/

/-- What stays fixed during a search: the shapes, and the side whose tail is compared with the
target. -/
structure Search where
  a : Float
  b : Float
  lnBeta : Float
  side : Side
  target : Float

/-- The Newton step on the logarithm of the tail; none where the tail or the slope is out of
range. -/
def Search.newton (search : Search) (x v : Float) : Float :=
  if 0.0 < v then
    let lnDensity :=
      (search.a - 1.0) * ln x + (search.b - 1.0) * lnOnePlus (-x) - search.lnBeta
    let lnRatio := lnDensity - ln v
    if lnRatio.abs < 709.0 then
      let slope := exp lnRatio
      let gap := ln v - ln search.target
      match search.side with
      | .lower => x - gap / slope
      | .upper => x + gap / slope
    else nan
  else nan

/-- What a search goes by. Nothing is taken for granted about any of it. -/
structure Approximations where
  /-- The logarithm of the beta function at two shapes. -/
  logBeta : (a b : Float) → Float
  /-- The tails at a point, given that logarithm. -/
  tails : (a b x lnBeta : Float) → Except Cause Tails
  /-- The point that a Newton step proposes, from a point and the compared tail there. -/
  newton : (search : Search) → (x v : Float) → Float
  /-- The first guess for the point with two tails. -/
  guess : (a b p q : Float) → Float

def Approximations.standard : Approximations where
  logBeta := IncompleteBeta.logBeta
  tails := IncompleteBeta.tails
  newton := Search.newton
  guess := firstGuess

/-- The ends between which the root lies, and the point to evaluate next. -/
structure Bracket where
  low : Float
  high : Float
  point : Float
deriving DecidableEq, Repr

def Bracket.start (guess : Float) : Bracket :=
  let point :=
    if 0.0 < guess && guess < 1.0 then guess
    else if 1.0 ≤ guess then 1.0 - epsilon / 2.0
    else minPositive
  { low := 0.0, high := 1.0, point }

/-- Whether the root lies to the right of a point where the compared tail is `v`: the lower tail
rises and the upper tail falls. -/
def Search.rightOf (search : Search) (v : Float) : Bool :=
  decide (v < search.target) == decide (search.side = .lower)

def Bracket.narrow (bracket : Bracket) (right : Bool) : Bracket :=
  if right then { bracket with low := bracket.point } else { bracket with high := bracket.point }

/-- The middle of a bracket: geometric in a wide one, arithmetic in a narrow one. -/
def Bracket.middle (bracket : Bracket) : Float :=
  if bracket.low == 0.0 then bracket.high / 8.0
  else if 16.0 * bracket.low < bracket.high then (bracket.low * bracket.high).sqrt
  else 0.5 * (bracket.low + bracket.high)

/-- The point after the bracket was narrowed: the proposal where it is strictly inside, the middle
elsewhere. -/
def Bracket.choose (bracket : Bracket) (proposal : Float) : Float :=
  if bracket.low < proposal && proposal < bracket.high then proposal else bracket.middle

def searchRounds : Nat := 300

namespace Approximations

/-- The search for the point whose tails are `p` and `q`; the smaller tail is compared. -/
def search (approximations : Approximations) (a b p q : Float) : Search :=
  let side : Side := if p ≤ q then .lower else .upper
  { a, b, lnBeta := approximations.logBeta a b, side, target := if p ≤ q then p else q }

/-- One round of the search. A point below the normal range stands for zero. -/
def round (approximations : Approximations) (search : Search) (bracket : Bracket) :
    Step Bracket Cause Float :=
  match approximations.tails search.a search.b bracket.point search.lnBeta with
  | .error cause => .failed cause
  | .ok both =>
    let v := both.on search.side
    if v == search.target then .settled bracket.point
    else
      let narrowed := bracket.narrow (search.rightOf v)
      let next := narrowed.choose (approximations.newton search bracket.point v)
      if next < minPositive then .settled 0.0
      else if (next - bracket.point).abs ≤ 4.0 * epsilon * next
          || narrowed.high - narrowed.low ≤ 4.0 * epsilon * narrowed.high then .settled next
      else .next { narrowed with point := next }

/-- The point whose tails are `p` and `q`, from a first guess. -/
def solve (approximations : Approximations) (a b p q guess : Float) : Except Cause Float :=
  iterate (approximations.round (approximations.search a b p q)) (.noConvergence searchRounds)
    searchRounds (.start guess)

end Approximations

/-! ### The inverses -/

/-- A point of the unit interval and its complement. -/
structure Quantile where
  value : Float
  complement : Float
deriving DecidableEq, Repr

namespace Approximations

/-- The root of the reflected problem, from a guess for it: the point is one minus the root. -/
def reflected (approximations : Approximations) (a b p q guess : Float) :
    Except Cause Quantile := do
  let y ← approximations.solve b a q p guess
  return ⟨1.0 - y, y⟩

/-- The point whose tails are `p` and `q`, where `p + q = 1`. -/
def invert (approximations : Approximations) (a b p q : Float) : Except Cause Quantile := do
  if p == 0.0 then return ⟨0.0, 1.0⟩
  if q == 0.0 then return ⟨1.0, 0.0⟩
  let guess := approximations.guess a b p q
  if guess ≤ 0.5 then
    let x ← approximations.solve a b p q guess
    if x ≤ 0.5 then return ⟨x, 1.0 - x⟩
    approximations.reflected a b p q (1.0 - x)
  else
    approximations.reflected a b p q (approximations.guess b a q p)

def quantile (approximations : Approximations) (a b p : Float) : Except Failure Quantile :=
  attributeTo (.evaluator .quantile) do
    requireShape "a" a
    requireShape "b" b
    requireUnit "p" p
    approximations.invert a b p (1.0 - p)

def upperQuantile (approximations : Approximations) (a b q : Float) : Except Failure Quantile :=
  attributeTo (.evaluator .upperQuantile) do
    requireShape "a" a
    requireShape "b" b
    requireUnit "q" q
    approximations.invert a b (1.0 - q) q

end Approximations

def solve (a b p q guess : Float) : Except Cause Float :=
  Approximations.standard.solve a b p q guess

def invert (a b p q : Float) : Except Cause Quantile := Approximations.standard.invert a b p q

/-- The point whose lower tail is `p`, by the standard approximations. -/
def quantile (a b p : Float) : Except Failure Quantile := Approximations.standard.quantile a b p

/-- The point whose upper tail is `q`, by the standard approximations. -/
def upperQuantile (a b q : Float) : Except Failure Quantile :=
  Approximations.standard.upperQuantile a b q

end IncompleteBeta
