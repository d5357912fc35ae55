/-
**Confidence bounds for a success probability.**

After `k` successes in `n` trials the exact one-sided bounds are quantiles of beta distributions:
`P (X ≤ k)` is the upper tail with shapes `k + 1` and `n - k`, and `P (X ≥ k)` is the lower tail
with shapes `k` and `n - k + 1`.

* `Approximations.successUpperBound`, `Approximations.successLowerBound`: the bounds by any
  approximations, with the counts as 64-bit words;
* `successUpperBound`, `successLowerBound`: the bounds by the standard ones.
-/

import IncompleteBeta.Quantile

namespace IncompleteBeta

variable [Elementary]

def requireCounts (n k : UInt64) : Except Cause Unit :=
  if k ≤ n then .ok () else .error (.domain "k" k.toFloat .atMostTrials)

/-- The cause of a failure, without whom it was attributed to. -/
def causeOf {α : Type} (result : Except Failure α) : Except Cause α :=
  result.mapError Failure.cause

namespace Approximations

/-- The success probability at which at most `k` successes have probability `proba`; 1 when every
trial succeeded. -/
def successUpperBound (approximations : Approximations) (n k : UInt64) (proba : Float) :
    Except Failure Float :=
  attributeTo .successUpperBound do
    requireCounts n k
    requireUnit "proba" proba
    if k = n then return 1.0
    let root ← causeOf (approximations.upperQuantile (k + 1).toFloat (n - k).toFloat proba)
    return root.value

/-- The success probability at which at least `k` successes have probability `proba`; 0 when no
trial succeeded. -/
def successLowerBound (approximations : Approximations) (n k : UInt64) (proba : Float) :
    Except Failure Float :=
  attributeTo .successLowerBound do
    requireCounts n k
    requireUnit "proba" proba
    if k = 0 then return 0.0
    let root ← causeOf (approximations.quantile k.toFloat (n - k + 1).toFloat proba)
    return root.value

end Approximations

def successUpperBound (n k : UInt64) (proba : Float) : Except Failure Float :=
  Approximations.standard.successUpperBound n k proba

def successLowerBound (n k : UInt64) (proba : Float) : Except Failure Float :=
  Approximations.standard.successLowerBound n k proba

end IncompleteBeta
