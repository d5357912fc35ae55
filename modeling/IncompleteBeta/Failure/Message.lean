/-
**The wording of failures.**

* `FailureKind.name`, `Routine.name`: the names in messages;
* `Evaluator.name`, `Evaluator.ofName?`: the names in reports and on the command line;
* `Evaluator.symbol`: the names of the entry points;
* `Failure.message`: the sentence for a failure.
-/

import IncompleteBeta.Failure
import IncompleteBeta.Decimal.Layout

namespace IncompleteBeta

def FailureKind.name : FailureKind → String
  | .domain => "domain"
  | .convergence => "convergence"
  | .evaluation => "evaluation"

def Evaluator.name : Evaluator → String
  | .quantile => "ibeta_inv"
  | .upperQuantile => "ibetac_inv"
  | .lowerTail => "ibeta"
  | .upperTail => "ibetac"

/-- The evaluator of a name. -/
def Evaluator.ofName? (name : String) : Option Evaluator :=
  if name = "ibeta_inv" then some .quantile
  else if name = "ibetac_inv" then some .upperQuantile
  else if name = "ibeta" then some .lowerTail
  else if name = "ibetac" then some .upperTail
  else none

/-- The symbol under which the entry point of an evaluator is found. -/
def Evaluator.symbol : Evaluator → String
  | .quantile => "ibeta_inv"
  | .upperQuantile => "ibetac_inv"
  | .lowerTail => "ibeta"
  | .upperTail => "ibetac"

def Routine.name : Routine → String
  | .evaluator .quantile => "ibeta_inv"
  | .evaluator .upperQuantile => "ibetac_inv"
  | .evaluator .lowerTail => "ibeta"
  | .evaluator .upperTail => "ibetac"
  | .successUpperBound => "binom_param_ub"
  | .successLowerBound => "binom_param_lb"

/-! ### One name for each evaluator -/

theorem Evaluator.symbol_eq (evaluator : Evaluator) : evaluator.symbol = evaluator.name := by
  cases evaluator <;> rfl

theorem Routine.name_evaluator (evaluator : Evaluator) :
    (Routine.evaluator evaluator).name = evaluator.name := by
  cases evaluator <;> rfl

/-! ### Sentences -/

def Requirement.describe : Requirement → String
  | .finitePositive => "finite and > 0"
  | .unitInterval => "0 <= value <= 1"
  | .atMostTrials => "k <= n"

/-- A quantity that is not finite, in words. -/
def Quantity.describe : Quantity → String
  | .prefactor => "power prefix is not finite"
  | .fraction => "continued fraction diverged"

def Cause.describe : Cause → String
  | .domain parameter value requirement =>
    parameter ++ " = " ++ String.ofList (Layout.message.text value) ++ " is outside the domain ("
      ++ requirement.describe ++ ")"
  | .noConvergence rounds =>
    "no convergence after " ++ String.ofList (Nat.toDigits 10 rounds) ++ " iterations"
  | .notFinite quantity => "evaluation failed: " ++ quantity.describe

def Failure.message (failure : Failure) : String :=
  failure.routine.name ++ ": " ++ failure.cause.describe

end IncompleteBeta
