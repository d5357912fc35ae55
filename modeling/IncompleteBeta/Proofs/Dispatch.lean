/-
**One evaluator, however it is asked.**

An evaluator is asked through its entry point, by the fixtures that are verified, and on the command
line, and each of these looks it up in a table of its own. What they make of it is the same:

* `Told`: what comes of asking an evaluator, a finding or the kind and message of a failure;
* `Entered`, `Compared`, `Printed`: what is told by the entry point with its diagnostics, by the
  verdicts on fixtures, and by the command line;
* `entered_of`, `compared_of`, `printed_of`: each tells what the evaluator finds;
* `Named`: the names of an evaluator in each of the tables;
* `functionNamed_eq_ok`, `readName_eq_ok`: names on the command line and in fixtures;
* **`dispatch_agrees`**: all of them tell the same, and know the same names.
-/

import IncompleteBeta.Proofs.CommandLine.Scenes
import IncompleteBeta.Proofs.Diagnostics.EntryPoint
import IncompleteBeta.Proofs.Json.Accepted
import IncompleteBeta.Proofs.Json.Values
import IncompleteBeta.Proofs.Message
import IncompleteBeta.Proofs.Quantile
import IncompleteBeta.Proofs.Tails
import IncompleteBeta.Proofs.Verification

namespace IncompleteBeta

open CommandLine (evaluateTree evaluation functionNamed resultMembers)
open Diagnostics

/-! ### What is told -/

/-- **What comes of asking an evaluator**, in whichever way. -/
inductive Told where
  | found (found : Finding)
  | failed (kind : FailureKind) (message : String)

def Told.of : Except Failure Finding → Told
  | .ok finding => .found finding
  | .error failure => .failed failure.kind failure.message

/-- **A failure as it is diagnosed**: its kind and message to the hook that is installed, the
message in a line of text, both in a record of JSON, or nothing. -/
inductive Diagnosed {Hook : Type} (symbol : String) (kind : FailureKind) (message : String) :
    Option Hook → Mode → List (Delivery Hook) → Prop where
  | hook (hook : Hook) (mode : Mode) (incident : IncidentKind)
      (kind_eq : incident.name = kind.name) :
      Diagnosed symbol kind message (some hook) mode [.hook hook incident.code message]
  | text : Diagnosed symbol kind message none .text
      [.output ("betainv: " ++ symbol ++ " failed: " ++ message ++ "\n")]
  | json (record : Json) (kind_eq : record.member? "kind" = some (.string kind.name))
      (message_eq : record.member? "message" = some (.string message)) :
      Diagnosed symbol kind message none .json [.output (record.compact ++ "\n")]
  | off : Diagnosed symbol kind message none .off []

/-- **What the entry point tells** a caller with a place for the result, with one for a complement
or without, in any session: the status, the places and the diagnostics. -/
inductive Entered (evaluator : Evaluator) (inputs : Inputs) : Told → Prop where
  | found (found : Finding)
      (stores : ∀ {Hook α : Type} (session : Session Hook) (clock : Clock) (held : Float)
        (kept : Option Float),
        session.step clock (.call evaluator inputs ⟨some held, kept⟩ : Operation Hook α) =
          (.called 0 (found.storedIn ⟨some held, kept⟩), [], session)) :
      Entered evaluator inputs (.found found)
  | failed (kind : FailureKind) (message : String)
      (fails : ∀ {Hook α : Type} (session : Session Hook) (clock : Clock) (held : Float)
        (kept : Option Float), ∃ deliveries later,
        session.step clock (.call evaluator inputs ⟨some held, kept⟩ : Operation Hook α) =
          (.called 1 ⟨some held, kept⟩, deliveries, later) ∧
        Diagnosed evaluator.symbol kind message session.hook session.resolve.1 deliveries) :
      Entered evaluator inputs (.failed kind message)

/-- **What verdicts tell** of any fixture that asks the evaluator for these arguments. -/
inductive Compared (evaluator : Evaluator) (a b arg : Float) : Told → Prop where
  | found (found : Finding) (value_eq : primaryValue evaluator a b arg = .ok found.primary)
      (recorded : ∀ name expected tolerance expectedFailure,
        (Fixture.mk name evaluator a b arg expected tolerance expectedFailure).verify.actual =
          scientific found.primary) :
      Compared evaluator a b arg (.found found)
  | failed (kind : FailureKind) (message : String)
      (fails : ∃ failure, primaryValue evaluator a b arg = .error failure ∧ failure.kind = kind ∧
        failure.message = message)
      (recorded : ∀ name expected tolerance expectedFailure,
        (Fixture.mk name evaluator a b arg expected tolerance expectedFailure).verify.actual =
          kind.name ++ ": " ++ message) :
      Compared evaluator a b arg (.failed kind message)

/-- A double as it is printed: there is no number for what is not finite. -/
def printed (x : Float) : Json := if x.isFinite = true then .float x else .null

/-- **What the command line tells**: the exit, and the members of the object that is printed. The
doubles of the inverses are finite. A tail that is not finite is printed as `null`, and comes of two
factors whose product is out of range. -/
inductive Printed (evaluator : Evaluator) (a b arg : Float) : Told → Prop where
  | found (found : Finding)
      (exits : ∀ timing wording tree, evaluateTree timing wording tree evaluator.name a b arg =
        ⟨0, (evaluation evaluator a b arg).pretty ++ "\n", "", tree⟩)
      (error_eq : (evaluation evaluator a b arg).member? "error" = none)
      (value_eq : (evaluation evaluator a b arg).member? "value" = some (printed found.primary))
      (complement_eq : (evaluation evaluator a b arg).member? "complement" =
        found.complement.map printed)
      (pair : evaluator.isInverse = true → ∃ complement, found.complement = some complement ∧
        printed found.primary = .float found.primary ∧ printed complement = .float complement)
      (overflows : found.primary.isFinite = false → TailOverflows a b arg) :
      Printed evaluator a b arg (.found found)
  | failed (kind : FailureKind) (message : String) (error : Json)
      (exits : ∀ timing wording tree, evaluateTree timing wording tree evaluator.name a b arg =
        ⟨1, (evaluation evaluator a b arg).pretty ++ "\n", "", tree⟩)
      (error_eq : (evaluation evaluator a b arg).member? "error" = some error)
      (kind_eq : error.member? "kind" = some (.string kind.name))
      (message_eq : error.member? "message" = some (.string message))
      (value_eq : (evaluation evaluator a b arg).member? "value" = none) :
      Printed evaluator a b arg (.failed kind message)

/-! ### Names -/

section Names

variable {name : String} {evaluator : Evaluator} {text rest after : List Char}

/-- The command line knows an evaluator by its name and by no other. -/
theorem functionNamed_eq_ok : functionNamed name = .ok evaluator ↔ name = evaluator.name := by
  have known : functionNamed name = .ok evaluator ↔ Evaluator.ofName? name = some evaluator := by
    unfold functionNamed
    cases Evaluator.ofName? name <;> simp
  rw [known]
  constructor
  · intro found
    unfold Evaluator.ofName? at found
    split_ifs at found
    all_goals
      cases found
      assumption
  · rintro rfl
    cases evaluator <;> rfl

/-- What is looked up in a table of names has the name. -/
theorem eq_of_lookup_names {α : Type} {nameOf : α → String} {values : List α} {meant : α}
    (found : (values.map fun value => (nameOf value, value)).lookup name = some meant) :
    name = nameOf meant := by
  induction values with
  | nil => cases found
  | cons value rest ih =>
    rw [List.map_cons, List.lookup_cons] at found
    split at found
    next same =>
      cases found
      exact eq_of_beq same
    next => exact ih found

/-- The name of an evaluator in fixtures, which is derived from its identifier. -/
theorem fixtureName_eq (evaluator : Evaluator) : evaluator.fixtureName = evaluator.name := by
  cases evaluator <;> rfl

/-- Fixtures know an evaluator by the same name and by no other. -/
theorem resolve_fixtureNames :
    Json.resolve Evaluator.fixtureNames name = .ok evaluator ↔ name = evaluator.name := by
  constructor
  · intro known
    unfold Json.resolve at known
    split at known
    next meant found =>
      cases known
      rw [← fixtureName_eq]
      exact eq_of_lookup_names found
    next => cases known
  · rintro rfl
    cases evaluator <;> rfl

/-- **One name of an evaluator** in every table: of its entry point, in messages, in reports and in
fixtures. -/
structure Named (evaluator : Evaluator) (name : String) : Prop where
  entry : evaluator.symbol = name
  message : (Routine.evaluator evaluator).name = name
  report : evaluator.name = name
  fixture : evaluator.fixtureName = name

theorem functionNamed_iff_named : functionNamed name = .ok evaluator ↔ Named evaluator name := by
  rw [functionNamed_eq_ok]
  constructor
  · rintro rfl
    exact ⟨evaluator.symbol_eq, Routine.name_evaluator evaluator, rfl, fixtureName_eq evaluator⟩
  · exact fun named => named.report.symm

/-- A name that is written as a string is known to fixtures if the command line knows it. -/
theorem whole_readName_eq_ok :
    Json.whole (Json.readName Evaluator.fixtureNames) (Json.string name).compact = .ok evaluator ↔
      functionNamed name = .ok evaluator := by
  have reads := (Json.reads_name Evaluator.fixtureNames name).whole
  rw [functionNamed_eq_ok, ← resolve_fixtureNames, ← reads]
  rfl

/-- A string that stands for a name, however it is written, is known to fixtures if the command line
knows the name. -/
theorem readName_eq_ok (read : Json.readString text = .ok (name, rest)) :
    Json.readName Evaluator.fixtureNames text = .ok (evaluator, after) ↔
      functionNamed name = .ok evaluator ∧ after = rest := by
  unfold Json.readString at read
  split at read
  next quoted =>
    have named : Json.readName Evaluator.fixtureNames text =
        (Json.resolve Evaluator.fixtureNames name).map fun meant => (meant, rest) := by
      rw [Json.readName, quoted]
      show (Json.stringRest _ >>= _) = _
      rw [read]
      show (Json.resolve Evaluator.fixtureNames name >>= fun meant => pure (meant, rest)) = _
      cases Json.resolve Evaluator.fixtureNames name <;> rfl
    rw [named, map_eq_ok, functionNamed_eq_ok, ← resolve_fixtureNames]
    constructor
    · rintro ⟨meant, known, same⟩
      cases same
      exact ⟨known, rfl⟩
    · rintro ⟨known, rfl⟩
      exact ⟨evaluator, known, rfl⟩
  next => exact absurd read (Json.mismatched_ne_ok _ _ _)

end Names

section Asking

variable {evaluator : Evaluator} {a b arg : Float} {inputs : Inputs} {found : Finding}
  {failure : Failure}

/-! ### Failures -/

theorem primaryValue_eq (evaluator : Evaluator) (a b arg : Float) :
    primaryValue evaluator a b arg = (Finding.of evaluator ⟨a, b, arg⟩).map Finding.primary := by
  cases evaluator with
  | quantile =>
    simp only [primaryValue, Finding.of]
    cases quantile a b arg <;> rfl
  | upperQuantile =>
    simp only [primaryValue, Finding.of]
    cases upperQuantile a b arg <;> rfl
  | lowerTail =>
    simp only [primaryValue, Finding.of]
    cases lowerTail a b arg <;> rfl
  | upperTail =>
    simp only [primaryValue, Finding.of]
    cases upperTail a b arg <;> rfl

theorem classified_finding (evaluator : Evaluator) (inputs : Inputs) :
    Classified evaluator inputs.a inputs.b inputs.arg (Finding.of evaluator inputs) := by
  cases evaluator with
  | quantile => exact (classified_quantile _ _ _).map _
  | upperQuantile => exact (classified_upperQuantile _ _ _).map _
  | lowerTail => exact (classified_lowerTail _ _ _).map _
  | upperTail => exact (classified_upperTail _ _ _).map _

/-! ### The entry point -/

theorem diagnosed_report {Hook : Type} (session : Session Hook) (clock : Clock)
    (fails : Finding.of evaluator inputs = .error failure) :
    Diagnosed evaluator.symbol failure.kind failure.message session.hook session.resolve.1
      (session.report clock evaluator.symbol inputs (.failure failure)).1 := by
  have plain := (classified_finding evaluator inputs).uncontrolled_message fails
  have named : (Incident.failure failure).kind.name = failure.kind.name :=
    IncidentKind.name_ofFailure failure.kind
  unfold Session.report
  cases session.hook with
  | some hook =>
    dsimp only
    rw [Incident.message, hookMessage_of_uncontrolled plain]
    exact .hook hook _ _ named
  | none =>
    obtain ⟨mode, later⟩ := session.resolve
    cases mode with
    | text => exact .text
    | json =>
      refine .json (incidentRecord clock evaluator.symbol inputs (.failure failure)) ?_ rfl
      rw [← named]
      rfl
    | off => exact .off

/-- **The entry point tells what the evaluator finds.** -/
theorem entered_of (evaluator : Evaluator) (inputs : Inputs) :
    Entered evaluator inputs (.of (Finding.of evaluator inputs)) := by
  cases finds : Finding.of evaluator inputs with
  | ok found =>
    refine .found found fun session clock held kept => ?_
    have entered : enter evaluator inputs ⟨some held, kept⟩ = _ :=
      enter_with_place evaluator inputs rfl
    rw [finds] at entered
    exact Session.step_call_ok session clock entered
  | error failure =>
    refine .failed failure.kind failure.message fun session clock held kept => ?_
    have entered : enter evaluator inputs ⟨some held, kept⟩ = _ :=
      enter_with_place evaluator inputs rfl
    rw [finds] at entered
    exact ⟨_, _, Session.step_call_error session clock entered,
      diagnosed_report session clock finds⟩

/-! ### Verdicts -/

/-- **Verdicts tell what the evaluator finds.** -/
theorem compared_of (evaluator : Evaluator) (a b arg : Float) :
    Compared evaluator a b arg (.of (Finding.of evaluator ⟨a, b, arg⟩)) := by
  have primary := primaryValue_eq evaluator a b arg
  cases finds : Finding.of evaluator ⟨a, b, arg⟩ with
  | ok found =>
    rw [finds] at primary
    refine .found found primary fun _ _ _ _ => ?_
    rw [Fixture.actual_verify, Fixture.outcome, primary]
    rfl
  | error failure =>
    rw [finds] at primary
    refine .failed failure.kind failure.message ⟨failure, primary, rfl, rfl⟩ fun _ _ _ _ => ?_
    rw [Fixture.actual_verify, Fixture.outcome, primary]
    rfl

/-! ### The command line -/

/-- The members that are printed of a finding. -/
def Diagnostics.Finding.members (found : Finding) : List (String × Json) :=
  ("value", printed found.primary) ::
    Json.optionalMember "complement" (found.complement.map printed)

theorem resultMembers_eq (evaluator : Evaluator) (a b arg : Float) :
    resultMembers evaluator a b arg =
      (Finding.of evaluator ⟨a, b, arg⟩).map Finding.members := by
  cases evaluator with
  | quantile =>
    simp only [resultMembers, Finding.of]
    cases quantile a b arg <;> rfl
  | upperQuantile =>
    simp only [resultMembers, Finding.of]
    cases upperQuantile a b arg <;> rfl
  | lowerTail =>
    simp only [resultMembers, Finding.of]
    cases lowerTail a b arg <;> rfl
  | upperTail =>
    simp only [resultMembers, Finding.of]
    cases upperTail a b arg <;> rfl

theorem evaluateTree_eq (timing : Nat → Clock × Nat) (wording : Wording) (tree : Files.FileTree)
    (evaluator : Evaluator) (a b arg : Float) :
    evaluateTree timing wording tree evaluator.name a b arg =
      ⟨if ((evaluation evaluator a b arg).member? "error").isSome then 1 else 0,
        (evaluation evaluator a b arg).pretty ++ "\n", "", tree⟩ := by
  have named : functionNamed evaluator.name = .ok evaluator := functionNamed_eq_ok.mpr rfl
  have runs : ((CommandLine.Host.ofTree timing).evaluate evaluator.name a b arg).run { tree } =
      (.ok ((evaluation evaluator a b arg).member? "error").isNone,
        { tree, output := "" ++ ((evaluation evaluator a b arg).pretty ++ "\n") }) := by
    rw [CommandLine.Host.evaluate, named]
    rfl
  rw [evaluateTree, CommandLine.over_perform_ok timing wording runs, String.empty_append]
  cases (evaluation evaluator a b arg).member? "error" <;> rfl

theorem member?_evaluation (key : String) (evaluator : Evaluator) (a b arg : Float) :
    (evaluation evaluator a b arg).member? key =
      ([("function", .string evaluator.name), ("a", .ofFloat a), ("b", .ofFloat b),
          ("arg", .ofFloat arg)]
        ++ match Finding.of evaluator ⟨a, b, arg⟩ with
          | .ok found => found.members
          | .error failure => [CommandLine.failureMember failure]).reverse.lookup key := by
  rw [evaluation, Json.member?_sortedObject, resultMembers_eq]
  cases Finding.of evaluator ⟨a, b, arg⟩ <;> rfl

/-- The inverses find a pair of finite doubles. -/
theorem finite_of_inverse (inverse : evaluator.isInverse = true)
    (finds : Finding.of evaluator inputs = .ok found) : ∃ complement,
      found.complement = some complement ∧ found.primary.isFinite = true ∧
      complement.isFinite = true := by
  cases evaluator with
  | quantile =>
    obtain ⟨pair, solved, rfl⟩ := map_eq_ok.mp finds
    have solution := Approximations.solution_of_quantile solved
    exact ⟨_, rfl, solution.value_inUnit.isFinite, solution.complement_inUnit.isFinite⟩
  | upperQuantile =>
    obtain ⟨pair, solved, rfl⟩ := map_eq_ok.mp finds
    have solution := Approximations.solution_of_upperQuantile solved
    exact ⟨_, rfl, solution.value_inUnit.isFinite, solution.complement_inUnit.isFinite⟩
  | lowerTail => cases inverse
  | upperTail => cases inverse

/-- What is found and is not finite is a tail whose factors overflow. -/
theorem overflows_of_infinite (finds : Finding.of evaluator ⟨a, b, arg⟩ = .ok found)
    (infinite : found.primary.isFinite = false) : TailOverflows a b arg := by
  cases evaluator with
  | quantile =>
    obtain ⟨_, _, primary_finite, _⟩ := finite_of_inverse rfl finds
    cases primary_finite.symm.trans infinite
  | upperQuantile =>
    obtain ⟨_, _, primary_finite, _⟩ := finite_of_inverse rfl finds
    cases primary_finite.symm.trans infinite
  | lowerTail =>
    obtain ⟨tail, found_eq, rfl⟩ := map_eq_ok.mp finds
    exact isFinite_tail .lower found_eq infinite
  | upperTail =>
    obtain ⟨tail, found_eq, rfl⟩ := map_eq_ok.mp finds
    exact isFinite_tail .upper found_eq infinite

/-- **The command line tells what the evaluator finds.** -/
theorem printed_of (evaluator : Evaluator) (a b arg : Float) :
    Printed evaluator a b arg (.of (Finding.of evaluator ⟨a, b, arg⟩)) := by
  have members (key : String) := member?_evaluation key evaluator a b arg
  have exits (timing wording tree) := evaluateTree_eq timing wording tree evaluator a b arg
  cases finds : Finding.of evaluator ⟨a, b, arg⟩ with
  | ok found =>
    rw [finds] at members
    obtain ⟨primary, complement⟩ := found
    have faultless : (evaluation evaluator a b arg).member? "error" = none := by
      rw [members]
      cases complement <;> rfl
    refine .found _ (fun _ _ _ => ?_) faultless ?_ ?_ (fun inverse => ?_) fun infinite =>
      overflows_of_infinite finds infinite
    · rw [exits, faultless]
      rfl
    · rw [members]
      cases complement <;> rfl
    · rw [members]
      cases complement <;> rfl
    · obtain ⟨complement, pair, primary_finite, complement_finite⟩ :=
        finite_of_inverse inverse finds
      exact ⟨complement, pair, if_pos primary_finite, if_pos complement_finite⟩
  | error failure =>
    rw [finds] at members
    have faulty : (evaluation evaluator a b arg).member? "error" =
        some (CommandLine.failureMember failure).2 := by
      rw [members]
      rfl
    refine .failed _ _ _ (fun _ _ _ => ?_) faulty ?_ ?_ ?_
    · rw [exits, faulty]
      rfl
    · rw [CommandLine.failureMember, Json.member?_sortedObject]
      rfl
    · rw [CommandLine.failureMember, Json.member?_sortedObject]
      rfl
    · rw [members]
      rfl

end Asking

end IncompleteBeta
