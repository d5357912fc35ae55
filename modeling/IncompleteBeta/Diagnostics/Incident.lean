/-
**What a caller is told when nothing was computed.**

* `Incident`: an evaluator failed, there is no place for its result, or it broke off;
* `IncidentKind`: the class of an incident, with its code and name;
* `Outcome`, `guarded`: how an evaluation can end, and the incident of an end without a value;
* `textLine`, `jsonLine`: an incident as a line of either kind.
-/

import IncompleteBeta.Failure.Message
import IncompleteBeta.Json.Printer
import IncompleteBeta.Time.Clock

namespace IncompleteBeta.Diagnostics

/-- The class of an incident. -/
inductive IncidentKind where
  | domain
  | convergence
  | evaluation
  | missingOutput
  | panicked
deriving DecidableEq, Repr

def IncidentKind.code : IncidentKind → Nat
  | .domain => 1
  | .convergence => 2
  | .evaluation => 3
  | .missingOutput => 4
  | .panicked => 5

def IncidentKind.name : IncidentKind → String
  | .domain => "domain"
  | .convergence => "convergence"
  | .evaluation => "evaluation"
  | .missingOutput => "null_output"
  | .panicked => "panic"

/-- The class of an incident that comes of a failure. -/
def IncidentKind.ofFailure : FailureKind → IncidentKind
  | .domain => .domain
  | .convergence => .convergence
  | .evaluation => .evaluation

/-- Failures have one name, in diagnostics as in logs and fixtures. -/
theorem IncidentKind.name_ofFailure (kind : FailureKind) : (ofFailure kind).name = kind.name := by
  cases kind <;> rfl

/-- Why an entry point gives no result. -/
inductive Incident where
  | failure (failure : Failure)
  | missingOutput (symbol : String)
  | panic (symbol : String) (message : String)
deriving DecidableEq, Repr

def Incident.kind : Incident → IncidentKind
  | .failure raised => .ofFailure raised.kind
  | .missingOutput _ => .missingOutput
  | .panic .. => .panicked

def Incident.message : Incident → String
  | .failure raised => raised.message
  | .missingOutput symbol => symbol ++ ": result pointer is null"
  | .panic symbol message => symbol ++ ": evaluator panicked: " ++ message

/-! ### Guarded evaluations -/

/-- What an evaluation that breaks off leaves behind: a text that it borrowed or that it owns, or
something that is no text. -/
inductive Payload where
  | borrowed (text : String)
  | owned (text : String)
  | other
deriving DecidableEq, Repr

def Payload.message : Payload → String
  | .borrowed text => text
  | .owned text => text
  | .other => "non-string panic payload"

/-- How an evaluation ends. -/
inductive Outcome (α : Type) where
  | returned (value : α)
  | failed (failure : Failure)
  | panicked (payload : Payload)

/-- The outcome of an evaluation that does not break off. -/
def Outcome.ofExcept {α : Type} : Except Failure α → Outcome α
  | .ok value => .returned value
  | .error failure => .failed failure

/-- The value of an evaluation on behalf of a symbol, or the incident that stands in its place. -/
def guarded {α : Type} (symbol : String) : Outcome α → Except Incident α
  | .returned value => .ok value
  | .failed failure => .error (.failure failure)
  | .panicked payload => .error (.panic symbol payload.message)

/-! ### Lines -/

/-- The arguments of an evaluation: two shapes, and a probability or a point. -/
structure Inputs where
  a : Float
  b : Float
  arg : Float
deriving DecidableEq, Repr

def textLine (symbol : String) (incident : Incident) : String :=
  "betainv: " ++ symbol ++ " failed: " ++ incident.message

/-- An incident as a JSON record. The time is in milliseconds, in a word of 64 bits. -/
def incidentRecord (clock : Clock) (symbol : String) (inputs : Inputs) (incident : Incident) :
    Json :=
  .object
    [("timestamp", .ofNat (UInt64.ofNat clock.milliseconds).toNat),
      ("level", .string "error"),
      ("event", .string "boundary_failure"),
      ("symbol", .string symbol),
      ("kind", .string incident.kind.name),
      ("message", .string incident.message),
      ("inputs", .array [.ofFloat inputs.a, .ofFloat inputs.b, .ofFloat inputs.arg])]

def jsonLine (clock : Clock) (symbol : String) (inputs : Inputs) (incident : Incident) : String :=
  (incidentRecord clock symbol inputs incident).compact

end IncompleteBeta.Diagnostics
