/-
**What a history leaves behind.**

A history is the operations carried out so far, each with its time. What later operations can tell
of it is which hook is installed and which mode is in force, and both are read off the last
operation that changed them:

* `Operation.newHook?`: the hook that an operation installs, or that it leaves none;
* `hookAfter`, `modeAfter`: the hook and the mode after a history;
* `hookAfter_of_changed`, `hookAfter_of_unchanged`: the hook is that of the last change, and none
  where nothing has changed it;
* `Session.Reflects`: a session agrees with a history;
* `Session.reflects_step`, `Session.reflects_run`: one operation and a sequence of them keep this.
-/

import IncompleteBeta.Diagnostics.Session

namespace IncompleteBeta.Diagnostics

/-- Operations in order, each with the time at which it is carried out. -/
abbrev History (Hook α : Type) := List (Clock × Operation Hook α)

section Settings

variable {Hook α : Type}

/-- The hook, or none, that an operation puts in place of the one before; nothing where it leaves
that alone. -/
def Operation.newHook? : Operation Hook α → Option (Option Hook)
  | .setHook hook => some hook
  | .installHook hook => some hook
  | _ => none

/-- The hook that is installed, once an operation is carried out. -/
def Operation.hook (current : Option Hook) (operation : Operation Hook α) : Option Hook :=
  operation.newHook?.getD current

/-- The mode in force, once an operation is carried out. -/
def Operation.mode (current : Mode) : Operation Hook α → Mode
  | .setMode now => now
  | _ => current

/-- The hook that is installed after a history; at the start there is none. -/
def hookAfter (history : History Hook α) : Option Hook :=
  history.foldl (fun current entry => entry.2.hook current) none

/-- The mode in force after a history; at the start it is the environment's. -/
def modeAfter (environment : Option String) (history : History Hook α) : Mode :=
  history.foldl (fun current entry => entry.2.mode current) (Mode.ofEnvironment environment)

theorem hookAfter_snoc (history : History Hook α) (clock : Clock) (operation : Operation Hook α) :
    hookAfter (history ++ [(clock, operation)]) = operation.hook (hookAfter history) := by
  simp only [hookAfter, List.foldl_append, List.foldl_cons, List.foldl_nil]

theorem modeAfter_snoc (environment : Option String) (history : History Hook α) (clock : Clock)
    (operation : Operation Hook α) :
    modeAfter environment (history ++ [(clock, operation)]) =
      operation.mode (modeAfter environment history) := by
  simp only [modeAfter, List.foldl_append, List.foldl_cons, List.foldl_nil]

/-- Operations that change no hook leave the one that is installed. -/
theorem foldl_hook_of_unchanged {current : Option Hook} {later : History Hook α}
    (unchanged : ∀ entry ∈ later, entry.2.newHook? = none) :
    later.foldl (fun current entry => entry.2.hook current) current = current := by
  induction later with
  | nil => rfl
  | cons entry rest ih =>
    obtain ⟨first, others⟩ := List.forall_mem_cons.mp unchanged
    have same : entry.2.hook current = current := by rw [Operation.hook, first, Option.getD_none]
    rw [List.foldl_cons, same, ih others]

/-- Without a change there is no hook. -/
theorem hookAfter_of_unchanged {history : History Hook α}
    (unchanged : ∀ entry ∈ history, entry.2.newHook? = none) : hookAfter history = none :=
  foldl_hook_of_unchanged unchanged

/-- **The hook is that of the last change.** -/
theorem hookAfter_of_changed {before between : History Hook α} {entry : Clock × Operation Hook α}
    {hook : Option Hook} (changed : entry.2.newHook? = some hook)
    (unchanged : ∀ entry ∈ between, entry.2.newHook? = none) :
    hookAfter (before ++ entry :: between) = hook := by
  rw [hookAfter, List.foldl_append, List.foldl_cons, foldl_hook_of_unchanged unchanged,
    Operation.hook, changed, Option.getD_some]

end Settings

namespace Session

section Lookup

variable {Hook : Type} (session : Session Hook)

/-! ### Looking up the mode -/

@[simp] theorem resolve_environment : session.resolve.2.environment = session.environment := by
  unfold resolve
  split <;> rfl

@[simp] theorem resolve_hook : session.resolve.2.hook = session.hook := by
  unfold resolve
  split <;> rfl

/-- The mode that is found: the known one, and the environment's as long as none is known. -/
theorem resolve_mode :
    session.resolve.1 = session.mode.getD (Mode.ofEnvironment session.environment) := by
  obtain ⟨environment, mode, hook⟩ := session
  cases mode <;> rfl

/-- What was looked up once is not looked up differently later. -/
@[simp] theorem resolve_resolve : session.resolve.2.resolve.1 = session.resolve.1 := by
  obtain ⟨environment, mode, hook⟩ := session
  cases mode <;> rfl

/-- A report leaves the session alone, or has looked up the mode. -/
theorem report_session (clock : Clock) (symbol : String) (inputs : Inputs) (incident : Incident) :
    (session.report clock symbol inputs incident).2 = session ∨
      (session.report clock symbol inputs incident).2 = session.resolve.2 := by
  unfold report
  cases session.hook with
  | some hook => exact Or.inl rfl
  | none =>
    right
    obtain ⟨mode, later⟩ := session.resolve
    cases mode <;> rfl

end Lookup

/-! ### Steps of calls and guarded evaluations -/

section Steps

variable {Hook α : Type} (session : Session Hook) (clock : Clock) {inputs : Inputs}
  {incident : Incident}

theorem step_call_ok {evaluator : Evaluator} {slots after : Slots}
    (entered : enter evaluator inputs slots = .ok after) :
    session.step clock (.call evaluator inputs slots : Operation Hook α) =
      (.called statusOk after, [], session) := by
  simp only [step, entered]

theorem step_call_error {evaluator : Evaluator} {slots : Slots}
    (entered : enter evaluator inputs slots = .error incident) :
    session.step clock (.call evaluator inputs slots : Operation Hook α) =
      (.called statusFailed slots, session.report clock evaluator.symbol inputs incident) := by
  simp only [step, entered]

theorem step_guard_ok {symbol : String} {outcome : Outcome α} {value : α}
    (ended : guarded symbol outcome = .ok value) :
    session.step clock (.guard symbol inputs outcome) = (.value value, [], session) := by
  simp only [step, ended]

theorem step_guard_error {symbol : String} {outcome : Outcome α}
    (ended : guarded symbol outcome = .error incident) :
    session.step clock (.guard symbol inputs outcome) =
      (.failed statusFailed incident, session.report clock symbol inputs incident) := by
  simp only [step, ended]

end Steps

/-! ### Sessions and histories -/

/-- A session that has the environment, and the hook and mode after a history. -/
structure Reflects {Hook α : Type} (session : Session Hook) (environment : Option String)
    (history : History Hook α) : Prop where
  environment_eq : session.environment = environment
  hook_eq : session.hook = hookAfter history
  mode_eq : session.resolve.1 = modeAfter environment history

variable {Hook α : Type} {environment : Option String} {history : History Hook α}
  {session : Session Hook}

theorem reflects_fresh (environment : Option String) :
    (fresh environment).Reflects environment ([] : History Hook α) :=
  ⟨rfl, rfl, rfl⟩

/-- Looking up the mode changes nothing that a history tells. -/
theorem Reflects.resolve (reflects : session.Reflects environment history) :
    session.resolve.2.Reflects environment history := by
  refine ⟨?_, ?_, ?_⟩
  · rw [resolve_environment, reflects.environment_eq]
  · rw [resolve_hook, reflects.hook_eq]
  · rw [resolve_resolve, reflects.mode_eq]

theorem Reflects.report (reflects : session.Reflects environment history) (clock : Clock)
    (symbol : String) (inputs : Inputs) (incident : Incident) :
    (session.report clock symbol inputs incident).2.Reflects environment history := by
  rcases report_session session clock symbol inputs incident with same | resolved
  · rw [same]
    exact reflects
  · rw [resolved]
    exact reflects.resolve

/-- An operation that changes neither setting leaves a longer history of the same effect. -/
theorem Reflects.snoc (reflects : session.Reflects environment history) (clock : Clock)
    (operation : Operation Hook α) (hook : ∀ current, operation.hook current = current)
    (mode : ∀ current, operation.mode current = current) :
    session.Reflects environment (history ++ [(clock, operation)]) := by
  refine ⟨reflects.environment_eq, ?_, ?_⟩
  · rw [hookAfter_snoc, hook, reflects.hook_eq]
  · rw [modeAfter_snoc, mode, reflects.mode_eq]

/-- An operation that only changes the hook leaves a longer history of that effect. -/
theorem Reflects.change (reflects : session.Reflects environment history) (clock : Clock)
    (operation : Operation Hook α) {hook : Option Hook} (changed : operation.newHook? = some hook)
    (mode : ∀ current, operation.mode current = current) :
    { session with hook }.Reflects environment (history ++ [(clock, operation)]) := by
  refine ⟨reflects.environment_eq, ?_, ?_⟩
  · rw [hookAfter_snoc, Operation.hook, changed, Option.getD_some]
  · rw [modeAfter_snoc, mode, ← reflects.mode_eq, resolve_mode, resolve_mode]

/-- **One operation keeps session and history in step.** -/
theorem reflects_step (reflects : session.Reflects environment history) (clock : Clock)
    (operation : Operation Hook α) :
    (session.step clock operation).2.2.Reflects environment
      (history ++ [(clock, operation)]) := by
  cases operation with
  | call evaluator inputs slots =>
    refine Reflects.snoc ?_ clock _ (fun _ => rfl) fun _ => rfl
    cases entered : enter evaluator inputs slots with
    | ok after =>
      rw [step_call_ok session clock entered]
      exact reflects
    | error incident =>
      rw [step_call_error session clock entered]
      exact reflects.report clock _ _ incident
  | guard symbol inputs outcome =>
    refine Reflects.snoc ?_ clock _ (fun _ => rfl) fun _ => rfl
    cases ended : guarded symbol outcome with
    | ok value =>
      rw [step_guard_ok session clock ended]
      exact reflects
    | error incident =>
      rw [step_guard_error session clock ended]
      exact reflects.report clock _ _ incident
  | setHook _ | installHook _ => exact reflects.change clock _ rfl fun _ => rfl
  | setMode mode =>
    refine ⟨?_, ?_, ?_⟩
    · show session.resolve.2.environment = environment
      rw [resolve_environment, reflects.environment_eq]
    · show session.resolve.2.hook = _
      rw [hookAfter_snoc, resolve_hook, reflects.hook_eq]
      rfl
    · rw [modeAfter_snoc]
      rfl
  | getMode => exact reflects.resolve.snoc clock _ (fun _ => rfl) fun _ => rfl

/-- **A sequence of operations keeps session and history in step.** -/
theorem reflects_run (reflects : session.Reflects environment history) (later : History Hook α) :
    (session.run later).2.Reflects environment (history ++ later) := by
  induction later generalizing session history with
  | nil =>
    rw [List.append_nil]
    exact reflects
  | cons entry rest ih =>
    obtain ⟨clock, operation⟩ := entry
    have next := ih (reflects_step reflects clock operation)
    rw [List.append_assoc] at next
    exact next

end Session

end IncompleteBeta.Diagnostics
