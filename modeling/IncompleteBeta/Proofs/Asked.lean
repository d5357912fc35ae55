/-
**Evaluations that know who asked.**

An evaluation raises its causes without knowing on whose behalf, and the routine that was asked puts
its name to them at the end. Here the same evaluation is handed the routine from the start, passes
it down to everything that can fail, and names it in a failure where the failure arises:

* `Asked.prefactor`, `Asked.classicalFraction`, `Asked.scaledFraction`: where failures arise;
* `Asked.tails`, `Asked.solve`, `Asked.invert`: what hands the routine down;
* **`Asked.tails_eq`**, **`Asked.solve_eq`**, **`Asked.invert_eq`**: a name that is handed down
  comes to the same as one that is put on at the end, however deep the failure arises;
* **`Asked.evaluators_eq`**: so the evaluators are those that hand down their own names.
-/

import IncompleteBeta.Proofs.Failure
import IncompleteBeta.Proofs.Iteration
import Mathlib.Tactic.SplitIfs

namespace IncompleteBeta

open Binary64 (epsilon minPositive)
open Elementary (exp)

variable [Elementary]

/-! ### The rest of a round -/

/-- What a round of the search comes to once the compared tail is known. Nothing in it can fail. -/
def Search.proceed {ε : Type} (search : Search) (bracket : Bracket) (v : Float) :
    Step Bracket ε Float :=
  if v == search.target then .settled bracket.point
  else
    let narrowed := bracket.narrow (search.rightOf v)
    let next := narrowed.choose (search.newton bracket.point v)
    if next < minPositive then .settled 0.0
    else if (next - bracket.point).abs ≤ 4.0 * epsilon * next
        || narrowed.high - narrowed.low ≤ 4.0 * epsilon * narrowed.high then .settled next
    else .next { narrowed with point := next }

theorem round_eq_proceed (search : Search) (bracket : Bracket) :
    Approximations.standard.round search bracket =
      match tails search.a search.b bracket.point search.lnBeta with
      | .error cause => .failed cause
      | .ok both => search.proceed bracket (both.on search.side) := rfl

theorem mapFailed_proceed {ε δ : Type} (rename : ε → δ) (search : Search) (bracket : Bracket)
    (v : Float) : (search.proceed bracket v).mapFailed rename = search.proceed bracket v := by
  unfold Search.proceed
  dsimp only
  split_ifs <;> rfl

namespace Asked

/-! ### Where failures arise -/

section Sources

variable (routine : Routine)

def requireShape (parameter : String) (value : Float) : Except Failure Unit :=
  if value.isFinite && 0.0 < value then .ok ()
  else .error ⟨routine, .domain parameter value .finitePositive⟩

def requireUnit (parameter : String) (value : Float) : Except Failure Unit :=
  if 0.0 ≤ value && value ≤ 1.0 then .ok ()
  else .error ⟨routine, .domain parameter value .unitInterval⟩

def prefactor (a b x y lnBeta : Float) : Except Failure Float :=
  let value := exp ((centralExponent a b x).getD (plainExponent a b x y lnBeta))
  if value.isFinite then .ok value else .error ⟨routine, .notFinite .prefactor⟩

def classicalFraction (a b x y : Float) : Except Failure Float :=
  let cap := roundCap a b
  iterate (fun state => (classicalRound a b x state).mapFailed (Failure.mk routine))
    ⟨routine, .noConvergence cap⟩ cap (classicalStart a b x y)

def scaledFraction (a b x y driving : Float) : Except Failure Float :=
  let cap := roundCap a b
  iterate (fun state => (scaledRound a b x y driving state).mapFailed (Failure.mk routine))
    ⟨routine, .noConvergence cap⟩ cap (scaledStart a driving)

variable {routine}

omit [Elementary] in
theorem requireShape_eq (parameter : String) (value : Float) :
    requireShape routine parameter value =
      attributeTo routine (IncompleteBeta.requireShape parameter value) := by
  unfold requireShape IncompleteBeta.requireShape
  split_ifs <;> rfl

omit [Elementary] in
theorem requireUnit_eq (parameter : String) (value : Float) :
    requireUnit routine parameter value =
      attributeTo routine (IncompleteBeta.requireUnit parameter value) := by
  unfold requireUnit IncompleteBeta.requireUnit
  split_ifs <;> rfl

theorem prefactor_eq (a b x y lnBeta : Float) : prefactor routine a b x y lnBeta =
    attributeTo routine (IncompleteBeta.prefactor a b x y lnBeta) := by
  unfold prefactor IncompleteBeta.prefactor
  dsimp only
  split_ifs <;> rfl

omit [Elementary] in
theorem classicalFraction_eq (a b x y : Float) : classicalFraction routine a b x y =
    attributeTo routine (IncompleteBeta.classicalFraction a b x y) :=
  iterate_mapFailed (Failure.mk routine) (fun _ => rfl) _ _ _

omit [Elementary] in
theorem scaledFraction_eq (a b x y driving : Float) : scaledFraction routine a b x y driving =
    attributeTo routine (IncompleteBeta.scaledFraction a b x y driving) :=
  iterate_mapFailed (Failure.mk routine) (fun _ => rfl) _ _ _

end Sources

/-! ### Tails -/

section Tails

variable (routine : Routine)

def factors (route : Route) (a b x y lnBeta : Float) : Except Failure Factors := do
  let factor ← prefactor routine a b x y lnBeta
  match route with
  | .scaled _ driving => return ⟨factor, ← scaledFraction routine a b x y driving⟩
  | .classical _ => return ⟨factor / a, ← classicalFraction routine a b x y⟩

def factorsAt (route : Route) (a b x lnBeta : Float) : Except Failure Factors :=
  let y := 1.0 - x
  match route.side with
  | .lower => factors routine route a b x y lnBeta
  | .upper => factors routine route b a y x lnBeta

def tails (a b x lnBeta : Float) : Except Failure Tails :=
  if x ≤ 0.0 then .ok ⟨0.0, 1.0⟩
  else if 1.0 ≤ x then .ok ⟨1.0, 0.0⟩
  else do
    let factors ← factorsAt routine (route a b x) a b x lnBeta
    return .ofDirect (route a b x).side factors.product

def checkedTails (a b x : Float) : Except Failure Tails := do
  requireShape routine "a" a
  requireShape routine "b" b
  requireUnit routine "x" x
  tails routine a b x (logBeta a b)

variable {routine}

theorem factors_eq (route : Route) (a b x y lnBeta : Float) :
    factors routine route a b x y lnBeta = attributeTo routine (route.factors a b x y lnBeta) := by
  unfold factors Route.factors
  rw [attributeTo_bind, prefactor_eq]
  congr 1
  funext factor
  cases route with
  | scaled side driving =>
    dsimp only
    rw [attributeTo_bind, scaledFraction_eq]
    rfl
  | classical side =>
    dsimp only
    rw [attributeTo_bind, classicalFraction_eq]
    rfl

theorem factorsAt_eq (route : Route) (a b x lnBeta : Float) :
    factorsAt routine route a b x lnBeta = attributeTo routine (route.factorsAt a b x lnBeta) := by
  unfold factorsAt Route.factorsAt
  cases route.side with
  | lower => exact factors_eq route _ _ _ _ _
  | upper => exact factors_eq route _ _ _ _ _

/-- **Tails under a name that is handed down** fail as they do, in that name. -/
theorem tails_eq (a b x lnBeta : Float) :
    tails routine a b x lnBeta = attributeTo routine (IncompleteBeta.tails a b x lnBeta) := by
  unfold tails IncompleteBeta.tails
  by_cases low : x ≤ 0.0
  · rw [if_pos low, if_pos low]
    rfl
  rw [if_neg low, if_neg low]
  by_cases high : 1.0 ≤ x
  · rw [if_pos high, if_pos high]
    rfl
  rw [if_neg high, if_neg high, Route.evaluate, attributeTo_bind, factorsAt_eq]
  rfl

theorem checkedTails_eq (a b x : Float) :
    checkedTails routine a b x = attributeTo routine (IncompleteBeta.checkedTails a b x) := by
  unfold checkedTails IncompleteBeta.checkedTails
  simp only [attributeTo_bind, requireShape_eq, requireUnit_eq, tails_eq]

end Tails

/-! ### Inverses -/

section Inverses

variable (routine : Routine)

def round (search : Search) (bracket : Bracket) : Step Bracket Failure Float :=
  match tails routine search.a search.b bracket.point search.lnBeta with
  | .error failure => .failed failure
  | .ok both => search.proceed bracket (both.on search.side)

def solve (a b p q guess : Float) : Except Failure Float :=
  iterate (round routine (Approximations.standard.search a b p q))
    ⟨routine, .noConvergence searchRounds⟩ searchRounds (.start guess)

def reflected (a b p q guess : Float) : Except Failure Quantile := do
  let y ← solve routine b a q p guess
  return ⟨1.0 - y, y⟩

def invert (a b p q : Float) : Except Failure Quantile := do
  if p == 0.0 then return ⟨0.0, 1.0⟩
  if q == 0.0 then return ⟨1.0, 0.0⟩
  let guess := firstGuess a b p q
  if guess ≤ 0.5 then
    let x ← solve routine a b p q guess
    if x ≤ 0.5 then return ⟨x, 1.0 - x⟩
    reflected routine a b p q (1.0 - x)
  else
    reflected routine a b p q (firstGuess b a q p)

variable {routine}

theorem round_eq (search : Search) (bracket : Bracket) : round routine search bracket =
    (Approximations.standard.round search bracket).mapFailed (Failure.mk routine) := by
  rw [round, tails_eq, round_eq_proceed]
  cases IncompleteBeta.tails search.a search.b bracket.point search.lnBeta with
  | error cause => rfl
  | ok both => exact (mapFailed_proceed _ search bracket _).symm

/-- **A search under a name that is handed down** fails as it does, in that name. -/
theorem solve_eq (a b p q guess : Float) : solve routine a b p q guess =
    attributeTo routine (IncompleteBeta.solve a b p q guess) :=
  iterate_mapFailed (Failure.mk routine) (round_eq _) _ _ _

theorem reflected_eq (a b p q guess : Float) : reflected routine a b p q guess =
    attributeTo routine (Approximations.standard.reflected a b p q guess) := by
  unfold reflected Approximations.reflected
  rw [attributeTo_bind, solve_eq]
  rfl

/-- **An inverse under a name that is handed down** fails as it does, in that name. -/
theorem invert_eq (a b p q : Float) :
    invert routine a b p q = attributeTo routine (IncompleteBeta.invert a b p q) := by
  unfold invert IncompleteBeta.invert Approximations.invert
  by_cases lowest : (p == 0.0) = true
  · rw [if_pos lowest, if_pos lowest]
    rfl
  rw [if_neg lowest, if_neg lowest]
  by_cases highest : (q == 0.0) = true
  · rw [if_pos highest, if_pos highest]
    rfl
  rw [if_neg highest, if_neg highest]
  show (if firstGuess a b p q ≤ 0.5 then _ else _) =
    attributeTo routine (if firstGuess a b p q ≤ 0.5 then _ else _)
  by_cases low : firstGuess a b p q ≤ 0.5
  · rw [if_pos low, if_pos low, attributeTo_bind, solve_eq]
    congr 1
    funext x
    split_ifs
    · rfl
    · exact reflected_eq a b p q _
  · rw [if_neg low, if_neg low]
    exact reflected_eq a b p q _

end Inverses

/-! ### Evaluators -/

def quantile (a b p : Float) : Except Failure Quantile := do
  requireShape (.evaluator .quantile) "a" a
  requireShape (.evaluator .quantile) "b" b
  requireUnit (.evaluator .quantile) "p" p
  invert (.evaluator .quantile) a b p (1.0 - p)

def upperQuantile (a b q : Float) : Except Failure Quantile := do
  requireShape (.evaluator .upperQuantile) "a" a
  requireShape (.evaluator .upperQuantile) "b" b
  requireUnit (.evaluator .upperQuantile) "q" q
  invert (.evaluator .upperQuantile) a b (1.0 - q) q

def lowerTail (a b x : Float) : Except Failure Float :=
  (checkedTails (.evaluator .lowerTail) a b x).map Tails.lower

def upperTail (a b x : Float) : Except Failure Float :=
  (checkedTails (.evaluator .upperTail) a b x).map Tails.upper

/-- **The evaluators are those that hand down their own names.** -/
theorem evaluators_eq (a b arg : Float) :
    quantile a b arg = IncompleteBeta.quantile a b arg ∧
      upperQuantile a b arg = IncompleteBeta.upperQuantile a b arg ∧
      lowerTail a b arg = IncompleteBeta.lowerTail a b arg ∧
      upperTail a b arg = IncompleteBeta.upperTail a b arg := by
  refine ⟨?_, ?_, ?_, ?_⟩
  · unfold quantile IncompleteBeta.quantile Approximations.quantile
    simp only [attributeTo_bind, requireShape_eq, requireUnit_eq, invert_eq]
    rfl
  · unfold upperQuantile IncompleteBeta.upperQuantile Approximations.upperQuantile
    simp only [attributeTo_bind, requireShape_eq, requireUnit_eq, invert_eq]
    rfl
  · unfold lowerTail IncompleteBeta.lowerTail
    rw [checkedTails_eq]
    cases IncompleteBeta.checkedTails a b arg <;> rfl
  · unfold upperTail IncompleteBeta.upperTail
    rw [checkedTails_eq]
    cases IncompleteBeta.checkedTails a b arg <;> rfl

end Asked

end IncompleteBeta
