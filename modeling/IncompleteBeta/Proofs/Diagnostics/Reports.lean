/-
**Every failure is reported once.**

* `Raises`: the incident of an operation, with the symbol and the arguments it is reported under;
* `Blanked`: a message with a space for every NUL and nothing else changed;
* `Sends`: where the report of an incident goes while some hook is installed, or none, and a mode is
  in force;
* `Accounted`: operations that raise an incident answer with a failure and send one report of it,
  and the others send nothing;
* `accounted_run`: the operations of a run are accounted for.
-/

import IncompleteBeta.Proofs.Diagnostics.EntryPoint
import Mathlib.Data.List.Forall2

namespace IncompleteBeta.Diagnostics

/-! ### Incidents -/

/-- The number by which hooks know an incident. -/
def Incident.number : Incident → Nat
  | .failure ⟨_, .domain ..⟩ => 1
  | .failure ⟨_, .noConvergence _⟩ => 2
  | .failure ⟨_, .notFinite _⟩ => 3
  | .missingOutput _ => 4
  | .panic .. => 5

/-- The code of the class of an incident is its number. -/
theorem code_kind (incident : Incident) : incident.kind.code = incident.number := by
  cases incident with
  | failure failure =>
    obtain ⟨routine, cause⟩ := failure
    cases cause <;> rfl
  | missingOutput symbol => rfl
  | panic symbol message => rfl

/-- **The incident of an operation**, with the symbol and the arguments it is reported under. -/
inductive Raises {Hook α : Type} : Operation Hook α → String → Inputs → Incident → Prop where
  /-- A call without a place for the result. -/
  | missing (evaluator : Evaluator) (inputs : Inputs) (slots : Slots)
      (missing : slots.primary = none) :
      Raises (.call evaluator inputs slots) evaluator.symbol inputs
        (.missingOutput evaluator.symbol)
  /-- A call with arguments for which nothing is found. -/
  | evaluation (evaluator : Evaluator) (inputs : Inputs) (slots : Slots) (failure : Failure)
      (place : slots.primary.isSome = true)
      (fails : Finding.of evaluator inputs = .error failure) :
      Raises (.call evaluator inputs slots) evaluator.symbol inputs (.failure failure)
  /-- A guarded evaluation that fails. -/
  | guarded (symbol : String) (inputs : Inputs) (failure : Failure) :
      Raises (.guard symbol inputs (.failed failure)) symbol inputs (.failure failure)
  /-- A guarded evaluation that breaks off with a text that it borrowed. -/
  | borrowed (symbol : String) (inputs : Inputs) (text : String) :
      Raises (.guard symbol inputs (.panicked (.borrowed text))) symbol inputs (.panic symbol text)
  /-- A guarded evaluation that breaks off with a text of its own. -/
  | owned (symbol : String) (inputs : Inputs) (text : String) :
      Raises (.guard symbol inputs (.panicked (.owned text))) symbol inputs (.panic symbol text)
  /-- A guarded evaluation that breaks off with anything else. -/
  | other (symbol : String) (inputs : Inputs) :
      Raises (.guard symbol inputs (.panicked .other)) symbol inputs
        (.panic symbol "non-string panic payload")

section Raising

variable {Hook α : Type} {symbol : String} {inputs : Inputs} {incident : Incident}

/-- The incident of a call is what its entry point gives in place of slots. -/
theorem raises_call_iff {evaluator : Evaluator} {slots : Slots} :
    Raises (.call evaluator inputs slots : Operation Hook α) evaluator.symbol inputs incident ↔
      enter evaluator inputs slots = .error incident := by
  constructor
  · intro raises
    cases raises with
    | missing _ _ _ missing => exact enter_without_place evaluator inputs missing
    | evaluation _ _ _ failure place fails =>
      obtain ⟨held, place⟩ := Option.isSome_iff_exists.mp place
      rw [enter_with_place evaluator inputs place, fails]
  · intro entered
    cases place : slots.primary with
    | none =>
      rw [enter_without_place evaluator inputs place] at entered
      cases entered
      exact .missing evaluator inputs slots place
    | some held =>
      have isSome : slots.primary.isSome = true := by rw [place]; rfl
      rw [enter_with_place evaluator inputs place] at entered
      cases finds : Finding.of evaluator inputs with
      | ok found =>
        rw [finds] at entered
        cases entered
      | error failure =>
        rw [finds] at entered
        cases entered
        exact .evaluation evaluator inputs slots failure isSome finds

/-- The incident of a guarded evaluation is what it gives in place of a value. -/
theorem raises_guard_iff {outcome : Outcome α} :
    Raises (.guard symbol inputs outcome : Operation Hook α) symbol inputs incident ↔
      guarded symbol outcome = .error incident := by
  constructor
  · intro raises
    cases raises <;> rfl
  · intro ended
    cases outcome with
    | returned value => cases ended
    | failed failure =>
      cases ended
      exact .guarded symbol inputs failure
    | panicked payload =>
      cases payload with
      | borrowed text =>
        cases ended
        exact .borrowed symbol inputs text
      | owned text =>
        cases ended
        exact .owned symbol inputs text
      | other =>
        cases ended
        exact .other symbol inputs

/-- A call is reported under its own name and arguments. -/
theorem raises_call_names {evaluator : Evaluator} {own : Inputs} {slots : Slots}
    (raises : Raises (.call evaluator own slots : Operation Hook α) symbol inputs incident) :
    symbol = evaluator.symbol ∧ inputs = own := by
  cases raises <;> exact ⟨rfl, rfl⟩

/-- A guarded evaluation is reported under the symbol and arguments it was given. -/
theorem raises_guard_names {given : String} {own : Inputs} {outcome : Outcome α}
    (raises : Raises (.guard given own outcome : Operation Hook α) symbol inputs incident) :
    symbol = given ∧ inputs = own := by
  cases raises <;> exact ⟨rfl, rfl⟩

/-- What a session delivers of an operation that raises an incident is the report of it. -/
theorem Session.step_of_raises {session : Session Hook} {operation : Operation Hook α}
    (raises : Raises operation symbol inputs incident) (clock : Clock) :
    (session.step clock operation).2 = session.report clock symbol inputs incident := by
  cases operation with
  | call evaluator own slots =>
    obtain ⟨rfl, rfl⟩ := raises_call_names raises
    rw [step_call_error session clock (raises_call_iff.mp raises)]
  | guard given own outcome =>
    obtain ⟨rfl, rfl⟩ := raises_guard_names raises
    rw [step_guard_error session clock (raises_guard_iff.mp raises)]
  | setHook _ | installHook _ | setMode _ | getMode => cases raises

end Raising

/-! ### Reports -/

/-- **A message with a space for every NUL and nothing else changed**, character by character. -/
def Blanked (original blanked : String) : Prop :=
  List.Forall₂ (fun before after => after = if before = '\x00' then ' ' else before)
    original.toList blanked.toList

theorem blanked_hookMessage (message : String) : Blanked message (Session.hookMessage message) := by
  unfold Blanked Session.hookMessage
  rw [String.toList_ofList, List.forall₂_map_right_iff, List.forall₂_same]
  intro before _
  rfl

/-- **Where the report of an incident goes**: to the hook that is installed and to nothing else,
and without one to one write that ends a line, or nowhere. -/
inductive Sends {Hook : Type} (clock : Clock) (symbol : String) (inputs : Inputs)
    (incident : Incident) : Option Hook → Mode → List (Delivery Hook) → Prop where
  | hook (hook : Hook) (mode : Mode) (message : String)
      (blanked : Blanked incident.message message) :
      Sends clock symbol inputs incident (some hook) mode [.hook hook incident.number message]
  | text : Sends clock symbol inputs incident none .text
      [.output (textLine symbol incident ++ "\n")]
  | json : Sends clock symbol inputs incident none .json
      [.output (jsonLine clock symbol inputs incident ++ "\n")]
  | off : Sends clock symbol inputs incident none .off []

/-- A session sends a report where its hook and its mode have it go. -/
theorem Session.sends_of_report {Hook : Type} (session : Session Hook) (clock : Clock)
    (symbol : String) (inputs : Inputs) (incident : Incident) :
    Sends clock symbol inputs incident session.hook session.resolve.1
      (session.report clock symbol inputs incident).1 := by
  unfold Session.report
  cases session.hook with
  | some hook =>
    rw [code_kind]
    exact .hook hook _ _ (blanked_hookMessage _)
  | none =>
    obtain ⟨mode, later⟩ := session.resolve
    cases mode with
    | text => exact .text
    | json => exact .json
    | off => exact .off

/-- These are the hook and the mode of its history. -/
theorem sends_report {Hook α : Type} {session : Session Hook} {environment : Option String}
    {history : History Hook α} (reflects : session.Reflects environment history) (clock : Clock)
    (symbol : String) (inputs : Inputs) (incident : Incident) :
    Sends clock symbol inputs incident (hookAfter history) (modeAfter environment history)
      (session.report clock symbol inputs incident).1 := by
  rw [← reflects.hook_eq, ← reflects.mode_eq]
  exact session.sends_of_report clock symbol inputs incident

/-! ### Runs -/

/-- An answer that tells of a failure. -/
inductive Answer.Failed {Hook α : Type} : Answer Hook α → Prop where
  | called (slots : Slots) : Failed (.called 1 slots)
  | guarded (incident : Incident) : Failed (.failed 1 incident)

/-- **Operations with their answers and reports, accounted for.** What was carried out before them
decides where the reports go. -/
inductive Accounted {Hook α : Type} (environment : Option String) :
    History Hook α → History Hook α → List (Answer Hook α × List (Delivery Hook)) → Prop where
  | nil (before : History Hook α) : Accounted environment before [] []
  /-- An operation that raises an incident sends one report of it. -/
  | failing {before later : History Hook α} {clock : Clock} {operation : Operation Hook α}
      {answer : Answer Hook α} {deliveries : List (Delivery Hook)}
      {rest : List (Answer Hook α × List (Delivery Hook))}
      (symbol : String) (inputs : Inputs) (incident : Incident)
      (raises : Raises operation symbol inputs incident) (failed : answer.Failed)
      (sends : Sends clock symbol inputs incident (hookAfter before)
        (modeAfter environment before) deliveries)
      (others : Accounted environment (before ++ [(clock, operation)]) later rest) :
      Accounted environment before ((clock, operation) :: later) ((answer, deliveries) :: rest)
  /-- An operation that raises none sends nothing. -/
  | quiet {before later : History Hook α} {clock : Clock} {operation : Operation Hook α}
      {answer : Answer Hook α} {rest : List (Answer Hook α × List (Delivery Hook))}
      (quiet : ∀ symbol inputs incident, ¬ Raises operation symbol inputs incident)
      (succeeded : ¬ answer.Failed)
      (others : Accounted environment (before ++ [(clock, operation)]) later rest) :
      Accounted environment before ((clock, operation) :: later) ((answer, []) :: rest)

section Accounting

variable {Hook α : Type} {session : Session Hook} {environment : Option String}
  {before later : History Hook α} {rest : List (Answer Hook α × List (Delivery Hook))}

/-- One operation, in front of operations that are accounted for. -/
theorem accounted_step (reflects : session.Reflects environment before) (clock : Clock)
    (operation : Operation Hook α)
    (others : Accounted environment (before ++ [(clock, operation)]) later rest) :
    Accounted environment before ((clock, operation) :: later)
      (((session.step clock operation).1, (session.step clock operation).2.1) :: rest) := by
  cases operation with
  | call evaluator inputs slots =>
    cases entered : enter evaluator inputs slots with
    | ok after =>
      rw [Session.step_call_ok session clock entered]
      refine .quiet (fun symbol own incident raises => ?_) (fun failed => by cases failed) others
      obtain ⟨rfl, rfl⟩ := raises_call_names raises
      rw [raises_call_iff.mp raises] at entered
      cases entered
    | error incident =>
      rw [Session.step_call_error session clock entered]
      exact .failing _ _ incident (raises_call_iff.mpr entered) (.called slots)
        (sends_report reflects clock _ _ incident) others
  | guard symbol inputs outcome =>
    cases ended : guarded symbol outcome with
    | ok value =>
      rw [Session.step_guard_ok session clock ended]
      refine .quiet (fun given own incident raises => ?_) (fun failed => by cases failed) others
      obtain ⟨rfl, rfl⟩ := raises_guard_names raises
      rw [raises_guard_iff.mp raises] at ended
      cases ended
    | error incident =>
      rw [Session.step_guard_error session clock ended]
      exact .failing _ _ incident (raises_guard_iff.mpr ended) (.guarded incident)
        (sends_report reflects clock _ _ incident) others
  | setHook _ | installHook _ | setMode _ | getMode =>
    exact .quiet (fun _ _ _ raises => by cases raises) (fun failed => by cases failed) others

end Accounting

/-- From a session in step with its history every further operation is accounted for. -/
theorem accounted_of_reflects {Hook α : Type} {session : Session Hook}
    {environment : Option String} {before : History Hook α}
    (reflects : session.Reflects environment before) (later : History Hook α) :
    Accounted environment before later (session.run later).1 := by
  induction later generalizing session before with
  | nil => exact .nil before
  | cons entry rest ih =>
    obtain ⟨clock, operation⟩ := entry
    exact accounted_step reflects clock operation
      (ih (Session.reflects_step reflects clock operation))

/-- **Every failure of a run is reported once**, where the hook and the mode at that moment have
the report go, and nothing else is reported. -/
theorem accounted_run {Hook α : Type} (environment : Option String) (history : History Hook α) :
    Accounted environment [] history ((Session.fresh environment).run history).1 :=
  accounted_of_reflects (Session.reflects_fresh environment) history

end IncompleteBeta.Diagnostics
