/-
**Looking up the mode late makes no difference.**

A session looks up its mode when it is first needed. The machine here knows it from the start:

* `Eager`: a mode and a hook, each changed by the operation that sets it and by no other;
* `Session.Follows`: a session is where the machine is, whether it has looked up the mode or not;
* `Session.follows_step`, `Session.follows_run`: one operation and a sequence of them keep this,
  with the same answers and the same diagnostics;
* **`run_indistinguishable`**: no run tells a session from the machine, a mode that was set stays
  until the next one is set, the hook that is told as the previous one is that of the last change,
  and settings that mean the same give the same runs.
-/

import IncompleteBeta.Proofs.Diagnostics.Reports
import IncompleteBeta.Proofs.Diagnostics.Setting

namespace IncompleteBeta.Diagnostics

/-! ### The machine -/

/-- **A machine that knows its mode from the start.** -/
structure Eager (Hook : Type) where
  mode : Mode
  hook : Option Hook

namespace Eager

variable {Hook α : Type}

/-- The machine of an environment: in the mode that the environment asks for, without a hook. -/
def start (environment : Option String) : Eager Hook :=
  { mode := Mode.ofEnvironment environment, hook := none }

/-- The report of an incident. It changes nothing. -/
def report (machine : Eager Hook) (clock : Clock) (symbol : String) (inputs : Inputs)
    (incident : Incident) : List (Delivery Hook) :=
  match machine.hook, machine.mode with
  | some hook, _ => [.hook hook incident.kind.code (Session.hookMessage incident.message)]
  | none, .text => [.output (textLine symbol incident ++ "\n")]
  | none, .json => [.output (jsonLine clock symbol inputs incident ++ "\n")]
  | none, .off => []

def step (machine : Eager Hook) (clock : Clock) :
    Operation Hook α → Answer Hook α × List (Delivery Hook) × Eager Hook
  | .call evaluator inputs slots =>
    match enter evaluator inputs slots with
    | .ok stored => (.called statusOk stored, [], machine)
    | .error incident =>
      (.called statusFailed slots, machine.report clock evaluator.symbol inputs incident, machine)
  | .guard symbol inputs outcome =>
    match guarded symbol outcome with
    | .ok value => (.value value, [], machine)
    | .error incident =>
      (.failed statusFailed incident, machine.report clock symbol inputs incident, machine)
  | .setHook hook => (.previousHook machine.hook, [], { machine with hook })
  | .installHook hook => (.hookInstalled, [], { machine with hook })
  | .setMode mode => (.previousMode machine.mode, [], { machine with mode })
  | .getMode => (.mode machine.mode, [], machine)

def run (machine : Eager Hook) : History Hook α → List (Answer Hook α × List (Delivery Hook))
  | [] => []
  | (clock, operation) :: rest =>
    let (answer, deliveries, machine) := machine.step clock operation
    (answer, deliveries) :: machine.run rest

end Eager

namespace Session

variable {Hook α : Type} {session : Session Hook} {machine : Eager Hook}

/-! ### The session behind the machine -/

/-- **A session is where the machine is**: it has not looked up the mode yet, which is then the
environment's, or it has. -/
inductive Follows : Session Hook → Eager Hook → Prop where
  | unresolved (environment : Option String) (hook : Option Hook) :
      Follows { environment, mode := none, hook } { mode := Mode.ofEnvironment environment, hook }
  | resolved (environment : Option String) (mode : Mode) (hook : Option Hook) :
      Follows { environment, mode := some mode, hook } { mode, hook }

theorem follows_fresh (environment : Option String) :
    (fresh environment : Session Hook).Follows (Eager.start environment) :=
  .unresolved environment none

theorem Follows.resolve (follows : session.Follows machine) :
    session.resolve.2.Follows machine := by
  cases follows <;> exact .resolved _ _ _

/-- Where the machine reports an incident to, the session does, and stays where the machine is. -/
theorem Follows.report (follows : session.Follows machine) (clock : Clock) (symbol : String)
    (inputs : Inputs) (incident : Incident) :
    (session.report clock symbol inputs incident).1 = machine.report clock symbol inputs incident ∧
      (session.report clock symbol inputs incident).2.Follows machine := by
  refine ⟨?_, ?_⟩
  · cases follows with
    | unresolved environment hook =>
      cases hook with
      | some hook => rfl
      | none =>
        simp only [Session.report, Eager.report, Session.resolve]
        cases Mode.ofEnvironment environment <;> rfl
    | resolved environment mode hook =>
      cases hook with
      | some hook => rfl
      | none => cases mode <;> rfl
  · rcases report_session session clock symbol inputs incident with same | resolved
    · rw [same]
      exact follows
    · rw [resolved]
      exact follows.resolve

/-- **One operation keeps the session where the machine is**, with the same answer and the same
diagnostics. -/
theorem follows_step (follows : session.Follows machine) (clock : Clock)
    (operation : Operation Hook α) :
    (session.step clock operation).1 = (machine.step clock operation).1 ∧
      (session.step clock operation).2.1 = (machine.step clock operation).2.1 ∧
      (session.step clock operation).2.2.Follows (machine.step clock operation).2.2 := by
  cases operation with
  | call evaluator inputs slots =>
    simp only [step, Eager.step]
    cases enter evaluator inputs slots with
    | ok stored => exact ⟨rfl, rfl, follows⟩
    | error incident => exact ⟨rfl, follows.report clock _ _ incident⟩
  | guard symbol inputs outcome =>
    simp only [step, Eager.step]
    cases guarded symbol outcome with
    | ok value => exact ⟨rfl, rfl, follows⟩
    | error incident => exact ⟨rfl, follows.report clock _ _ incident⟩
  | setHook _ | installHook _ => cases follows <;> exact ⟨rfl, rfl, by constructor⟩
  | setMode _ | getMode => cases follows <;> exact ⟨rfl, rfl, .resolved _ _ _⟩

/-- **A run of the session gives what the machine gives.** -/
theorem follows_run (follows : session.Follows machine) (history : History Hook α) :
    (session.run history).1 = machine.run history := by
  induction history generalizing session machine with
  | nil => rfl
  | cons entry rest ih =>
    obtain ⟨clock, operation⟩ := entry
    obtain ⟨answer, deliveries, next⟩ := follows_step follows clock operation
    simp only [run, Eager.run]
    rw [answer, deliveries, ih next]

/-! ### What was looked up or set -/

theorem run_append (session : Session Hook) (before later : History Hook α) :
    session.run (before ++ later) =
      ((session.run before).1 ++ ((session.run before).2.run later).1,
        ((session.run before).2.run later).2) := by
  induction before generalizing session with
  | nil => rfl
  | cons entry rest ih =>
    obtain ⟨clock, operation⟩ := entry
    simp only [List.cons_append, run, ih]

/-- A mode that is known stays so until another one is set. -/
theorem step_mode_of_known {mode : Mode} (known : session.mode = some mode) (clock : Clock)
    (operation : Operation Hook α) :
    (session.step clock operation).2.2.mode = some (operation.mode mode) := by
  obtain ⟨environment, _, hook⟩ := session
  cases known
  have kept := fun symbol inputs incident =>
    report_session ⟨environment, some mode, hook⟩ clock symbol inputs incident
  cases operation with
  | call evaluator inputs slots =>
    simp only [step]
    cases enter evaluator inputs slots with
    | ok stored => rfl
    | error incident =>
      rcases kept evaluator.symbol inputs incident with same | same <;> rw [same] <;> rfl
  | guard symbol inputs outcome =>
    simp only [step]
    cases guarded symbol outcome with
    | ok value => rfl
    | error incident => rcases kept symbol inputs incident with same | same <;> rw [same] <;> rfl
  | setHook _ | installHook _ | setMode _ | getMode => rfl

/-- After a run the mode that was known is the one that was set last. -/
theorem run_mode_of_known {mode : Mode} (known : session.mode = some mode)
    (later : History Hook α) : (session.run later).2.mode =
      some (later.foldl (fun current entry => entry.2.mode current) mode) := by
  induction later generalizing session mode with
  | nil => exact known
  | cons entry rest ih =>
    obtain ⟨clock, operation⟩ := entry
    exact ih (step_mode_of_known known clock operation)

/-- Operations that set no mode leave the mode in force. -/
theorem foldl_mode_of_unset {mode : Mode} {later : History Hook α}
    (unset : ∀ entry ∈ later, ∀ other, entry.2 ≠ .setMode other) :
    later.foldl (fun current entry => entry.2.mode current) mode = mode := by
  induction later with
  | nil => rfl
  | cons entry rest ih =>
    obtain ⟨first, others⟩ := List.forall_mem_cons.mp unset
    obtain ⟨clock, operation⟩ := entry
    have same : operation.mode mode = mode := by
      cases operation with
      | setMode other => exact absurd rfl (first other)
      | _ => rfl
    rw [List.foldl_cons, same, ih others]

/-- **A failure that goes to a hook leaves the session as it is.** -/
theorem step_of_hooked {hook : Hook} (hooked : session.hook = some hook) (clock : Clock)
    {operation : Operation Hook α} {symbol : String} {inputs : Inputs} {incident : Incident}
    (raises : Raises operation symbol inputs incident) :
    (session.step clock operation).2.2 = session := by
  rw [step_of_raises raises, report, hooked]

/-- A session shows only the mode that its environment asks for. -/
theorem run_fresh_congr {environment other : Option String}
    (same : Mode.ofEnvironment environment = Mode.ofEnvironment other) (history : History Hook α) :
    ((fresh environment).run history).1 = ((fresh other).run history).1 := by
  rw [follows_run (follows_fresh environment), follows_run (follows_fresh other), Eager.start, same,
    Eager.start]

end Session

/-- What is told as the previous hook is the hook after the history. -/
theorem previousHook_run {Hook α : Type} (environment : Option String) (history : History Hook α)
    (clock : Clock) (next : Option Hook) :
    ((((Session.fresh environment).run history).2.step clock (.setHook next)).1 : Answer Hook α) =
      .previousHook (hookAfter history) := by
  have reflects := Session.reflects_run (Session.reflects_fresh environment) history
  exact congrArg Answer.previousHook reflects.hook_eq

end IncompleteBeta.Diagnostics
