/-
**Verdicts.**

* `primaryValue`: the value of an evaluator that fixtures compare;
* `relativeError`: the distance of a value from the expected one;
* `Fixture.verify`: what comes of one case;
* `FixtureSet.verify`: the report on a set;
* `verifyFile`: the report on the set in a file.
-/

import IncompleteBeta.Digest.Sha256
import IncompleteBeta.Fixture.File
import IncompleteBeta.Quantile
import IncompleteBeta.Verification.Report

namespace IncompleteBeta

/-- The value of an evaluator: the point for a quantile, whose complement is not compared. -/
def primaryValue (function : Evaluator) (a b arg : Float) : Except Failure Float :=
  match function with
  | .quantile => (quantile a b arg).map Quantile.value
  | .upperQuantile => (upperQuantile a b arg).map Quantile.value
  | .lowerTail => lowerTail a b arg
  | .upperTail => upperTail a b arg

/-- The distance of a value from the expected one, relative to it where it is not zero. -/
def relativeError (actual expected : Float) : Float :=
  if actual == expected then 0.0
  else
    let difference := (actual - expected).abs
    if expected == 0.0 then difference else difference / expected.abs

def scientific (x : Float) : String := String.ofList (Layout.scientific.text x)

def describeOutcome : Except Failure Float → String
  | .ok value => scientific value
  | .error failure => failure.kind.name ++ ": " ++ failure.message

/-- What comes of a case. An expected failure is looked at before an expected value. -/
def Fixture.verify (fixture : Fixture) : CaseResult :=
  let outcome := primaryValue fixture.function fixture.a fixture.b fixture.arg
  let result (passed : Bool) (expected : String) (error : Option Float) : CaseResult :=
    { name := fixture.name, function := fixture.function.name, passed, expected,
      actual := describeOutcome outcome, error }
  match fixture.expectedFailure, fixture.expected, outcome with
  | some kind, _, .ok _ => result false ("failure: " ++ kind) none
  | some kind, _, .error failure =>
    result (failure.kind.name == kind) ("failure: " ++ kind) none
  | none, some expected, .ok value =>
    let tolerance := fixture.tolerance.getD 0.0
    let error := relativeError value expected
    result (error ≤ tolerance)
      (scientific expected ++ " (rel_tol " ++ scientific tolerance ++ ")") (some error)
  | none, some expected, .error _ => result false (scientific expected) none
  | none, none, _ =>
    result false "malformed case: neither expected nor expected_failure" none

def FixtureSet.verify (set : FixtureSet) (source : List UInt8) : Report :=
  let cases := set.cases.map Fixture.verify
  let passed := (cases.filter CaseResult.passed).length
  { family := set.family
    version := set.version
    digest := Digest.sha256Hex source
    total := cases.length
    passed
    failed := cases.length - passed
    cases }

/-- The report on the set that a file holds. Where its bytes are no text, the place is told. -/
def verifyFile (path : PathName) (content : Content) : Except LoadFault Report :=
  match content with
  | .error fault => .error (.file path (.system fault))
  | .ok bytes =>
    match Text.decodeUtf8 bytes with
    | .error fault => .error (.file path (.notText fault))
    | .ok text =>
      match FixtureSet.ofJson (String.ofList text) with
      | .error fault => .error (.json path fault)
      | .ok set => .ok (set.verify bytes)

end IncompleteBeta
