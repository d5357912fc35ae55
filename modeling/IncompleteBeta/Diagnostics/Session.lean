/-
**Sessions of calls.**

A session holds what earlier operations can have changed: the mode of the diagnostics, which is
looked up in the environment when it is first needed, and the hook that is installed, if any. An
operation answers, and may deliver diagnostics on the way. Nothing is assumed about hooks but that
they can be told apart.

* `Operation`, `Answer`, `Delivery`: what can be asked, what is answered and what is delivered;
* `Session.report`: the delivery of one incident;
* `Session.step`, `Session.run`: one operation, and a sequence of them.
-/

import IncompleteBeta.Diagnostics.Incident
import IncompleteBeta.Diagnostics.Mode
import IncompleteBeta.Quantile

namespace IncompleteBeta.Diagnostics

/-! ### Calls -/

/-- The places that a caller gives for results, with what they hold; a missing place is `none`. -/
structure Slots where
  primary : Option Float
  complement : Option Float
deriving DecidableEq, Repr

/-- Store a quantile: the complement only where there is a place for it. -/
def Slots.storePair (slots : Slots) (pair : Quantile) : Slots :=
  { primary := some pair.value, complement := slots.complement.map fun _ => pair.complement }

def Slots.storeTail (slots : Slots) (tail : Float) : Slots := { slots with primary := some tail }

/-- Evaluate on behalf of a symbol and store the result, if there is a place for it. -/
def storing {α : Type} (symbol : String) (store : Slots → α → Slots) (slots : Slots)
    (outcome : Outcome α) : Except Incident Slots :=
  match slots.primary with
  | none => .error (.missingOutput symbol)
  | some _ => (guarded symbol outcome).map (store slots)

/-- The entry point of an evaluator: the slots after a success, or the incident. -/
def enter (evaluator : Evaluator) (inputs : Inputs) (slots : Slots) : Except Incident Slots :=
  match evaluator with
  | .quantile =>
    storing evaluator.symbol Slots.storePair slots
      (.ofExcept (quantile inputs.a inputs.b inputs.arg))
  | .upperQuantile =>
    storing evaluator.symbol Slots.storePair slots
      (.ofExcept (upperQuantile inputs.a inputs.b inputs.arg))
  | .lowerTail =>
    storing evaluator.symbol Slots.storeTail slots
      (.ofExcept (lowerTail inputs.a inputs.b inputs.arg))
  | .upperTail =>
    storing evaluator.symbol Slots.storeTail slots
      (.ofExcept (upperTail inputs.a inputs.b inputs.arg))

/-! ### Operations -/

/-- What can be asked of a session; `α` is the type of values of guarded evaluations. -/
inductive Operation (Hook α : Type) where
  | call (evaluator : Evaluator) (inputs : Inputs) (slots : Slots)
  /-- Guard an evaluation that ends like this, and report it if it gives no value. -/
  | guard (symbol : String) (inputs : Inputs) (outcome : Outcome α)
  /-- Install a hook, or none, and tell which one was installed before. -/
  | setHook (hook : Option Hook)
  /-- The same for callers that are told nothing. -/
  | installHook (hook : Option Hook)
  | setMode (mode : Mode)
  | getMode

/-- What an operation answers. -/
inductive Answer (Hook α : Type) where
  | called (status : Nat) (slots : Slots)
  | value (value : α)
  /-- The status of a guarded evaluation without a value, and the incident. -/
  | failed (status : Nat) (incident : Incident)
  | previousHook (hook : Option Hook)
  | hookInstalled
  | previousMode (mode : Mode)
  | mode (mode : Mode)

def statusOk : Nat := 0

def statusFailed : Nat := 1

/-- A diagnostic on its way out: to a hook, or to the output. -/
inductive Delivery (Hook : Type) where
  | hook (receiver : Hook) (code : Nat) (message : String)
  | output (text : String)
deriving DecidableEq, Repr

/-! ### Sessions -/

/-- What earlier operations can have changed, and the environment that the session runs in. -/
structure Session (Hook : Type) where
  environment : Option String
  /-- The mode, once it has been needed or set. -/
  mode : Option Mode
  hook : Option Hook
deriving DecidableEq, Repr

namespace Session

variable {Hook : Type}

/-- A session at its start: the mode is not known yet and there is no hook. -/
def fresh (environment : Option String) : Session Hook :=
  { environment, mode := none, hook := none }

/-- The mode, looked up in the environment where it is not known yet. -/
def resolve (session : Session Hook) : Mode × Session Hook :=
  match session.mode with
  | some mode => (mode, session)
  | none =>
    let mode := Mode.ofEnvironment session.environment
    (mode, { session with mode := some mode })

/-- The message that a hook can take: a space for every NUL. -/
def hookMessage (message : String) : String :=
  String.ofList (message.toList.map fun c => if c = '\x00' then ' ' else c)

/-- Report an incident: to the hook that is installed, and by the mode where there is none. -/
def report (session : Session Hook) (clock : Clock) (symbol : String) (inputs : Inputs)
    (incident : Incident) : List (Delivery Hook) × Session Hook :=
  match session.hook with
  | some hook => ([.hook hook incident.kind.code (hookMessage incident.message)], session)
  | none =>
    let (mode, session) := session.resolve
    match mode with
    | .off => ([], session)
    | .text => ([.output (textLine symbol incident ++ "\n")], session)
    | .json => ([.output (jsonLine clock symbol inputs incident ++ "\n")], session)

/-- One operation at a time of the clock: the answer, the deliveries and the session after it. -/
def step {α : Type} (session : Session Hook) (clock : Clock) :
    Operation Hook α → Answer Hook α × List (Delivery Hook) × Session Hook
  | .call evaluator inputs slots =>
    match enter evaluator inputs slots with
    | .ok stored => (.called statusOk stored, [], session)
    | .error incident =>
      (.called statusFailed slots, session.report clock evaluator.symbol inputs incident)
  | .guard symbol inputs outcome =>
    match guarded symbol outcome with
    | .ok value => (.value value, [], session)
    | .error incident =>
      (.failed statusFailed incident, session.report clock symbol inputs incident)
  | .setHook hook => (.previousHook session.hook, [], { session with hook })
  | .installHook hook => (.hookInstalled, [], { session with hook })
  | .setMode mode =>
    let (previous, session) := session.resolve
    (.previousMode previous, [], { session with mode := some mode })
  | .getMode =>
    let (mode, session) := session.resolve
    (.mode mode, [], session)

/-- A sequence of operations, each at its own time: the answers with their deliveries, in order, and
the session at the end. -/
def run {α : Type} (session : Session Hook) :
    List (Clock × Operation Hook α) → List (Answer Hook α × List (Delivery Hook)) × Session Hook
  | [] => ([], session)
  | (clock, operation) :: rest =>
    let (answer, deliveries, session) := session.step clock operation
    let (answers, session) := session.run rest
    ((answer, deliveries) :: answers, session)

end Session

end IncompleteBeta.Diagnostics
