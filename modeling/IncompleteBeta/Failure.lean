/-
**Why an evaluation fails.**

A cause says what went wrong and at which value; it is raised without knowing on whose behalf. A
failure is a cause together with the routine that was asked.

* `Cause`: an argument outside the domain, an iteration that used up its rounds, or an intermediate
  quantity that is not finite;
* `Evaluator`: the four functions that are dispatched on by name;
* `Routine`: everything that can be asked, the bounds included;
* `Failure`: a cause attributed to a routine;
* `requireShape`, `requireUnit`: the two argument checks that every routine shares.
-/

namespace IncompleteBeta

/-- What an argument has to satisfy. -/
inductive Requirement where
  | finitePositive
  | unitInterval
  | atMostTrials
deriving DecidableEq, Repr

/-- An intermediate quantity that has to be finite. -/
inductive Quantity where
  | prefactor
  | fraction
deriving DecidableEq, Repr

/-- The class of a failure, which logs and fixtures name. -/
inductive FailureKind where
  | domain
  | convergence
  | evaluation
deriving DecidableEq, Repr

/-- What went wrong. -/
inductive Cause where
  | domain (parameter : String) (value : Float) (requirement : Requirement)
  | noConvergence (rounds : Nat)
  /-- An intermediate quantity is infinite or not a number. -/
  | notFinite (quantity : Quantity)
deriving DecidableEq, Repr

def Cause.kind : Cause → FailureKind
  | .domain .. => .domain
  | .noConvergence _ => .convergence
  | .notFinite _ => .evaluation

/-- The four functions that fixtures, callers and the command line name. -/
inductive Evaluator where
  | quantile
  | upperQuantile
  | lowerTail
  | upperTail
deriving DecidableEq, Repr

/-- Everything that can be asked of the library by name. -/
inductive Routine where
  | evaluator (evaluator : Evaluator)
  /-- The upper confidence bound for a success probability. -/
  | successUpperBound
  /-- The lower confidence bound for a success probability. -/
  | successLowerBound
deriving DecidableEq, Repr

/-- A cause attributed to the routine that was asked. -/
structure Failure where
  routine : Routine
  cause : Cause
deriving DecidableEq, Repr

def Failure.kind (failure : Failure) : FailureKind := failure.cause.kind

def attributeTo {α : Type} (routine : Routine) (result : Except Cause α) : Except Failure α :=
  result.mapError (Failure.mk routine)

def requireShape (parameter : String) (value : Float) : Except Cause Unit :=
  if value.isFinite && 0.0 < value then .ok ()
  else .error (.domain parameter value .finitePositive)

/-- Probabilities and arguments lie in the closed unit interval. -/
def requireUnit (parameter : String) (value : Float) : Except Cause Unit :=
  if 0.0 ≤ value && value ≤ 1.0 then .ok ()
  else .error (.domain parameter value .unitInterval)

end IncompleteBeta
