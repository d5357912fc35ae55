/-
**What is known of reports.**

* `Holds`: the bytes and the set of a file that is read and parsed;
* **`verifyFile_eq_ok`**: exactly such files give a report, and it is that of their set;
* `Fixture.Meets`, `Fixture.Compares`: what makes a case pass, and what a case compares;
* `Fixture.Judged`: the verdict on a case, which `judged_verify` finds on every case;
* `Report.Counted`, `Report.Joins`: counts that fit the results, and reports put together;
* `allPassed_verify`: a report fails nothing exactly if each of its cases passed;
* **`verify_judges`**: every report holds one verdict for each case, in order, and counts them.
-/

import IncompleteBeta.Proofs.Binary64.Value
import IncompleteBeta.Proofs.Failure
import IncompleteBeta.Verification.Verdict
import Mathlib.Data.List.Basic

namespace IncompleteBeta

/-- **A file is read, and its bytes are those of a text that is a set of fixtures.** -/
def Holds (content : Content) (bytes : List UInt8) (set : FixtureSet) : Prop :=
  ∃ text, content = .ok bytes ∧ Text.decodeUtf8 bytes = .ok text ∧
    FixtureSet.ofJson (String.ofList text) = .ok set

section File

variable {path : PathName} {content : Content} {report : Report}

/-- **The files that are read and parsed give a report**, and no others do. -/
theorem verifyFile_eq_ok : verifyFile path content = .ok report ↔
    ∃ bytes set, Holds content bytes set ∧ report = set.verify bytes := by
  unfold verifyFile
  constructor
  · intro verified
    split at verified
    next => cases verified
    next bytes =>
      split at verified
      next => cases verified
      next text decoded =>
        split at verified
        next => cases verified
        next set parsed =>
          cases verified
          exact ⟨bytes, set, ⟨text, rfl, decoded, parsed⟩, rfl⟩
  · rintro ⟨bytes, set, ⟨text, rfl, decoded, parsed⟩, rfl⟩
    simp only [decoded, parsed]

end File

/-! ### Verdicts -/

namespace Fixture

/-- What the evaluator of a fixture finds for its arguments. -/
def outcome (fixture : Fixture) : Except Failure Float :=
  primaryValue fixture.function fixture.a fixture.b fixture.arg

/-- **What makes a case pass**: a failure of the expected kind, or, where no failure is expected, a
value that is close enough to the expected one. -/
inductive Meets (fixture : Fixture) : Except Failure Float → Prop where
  | failure (failure : Failure) (expects : fixture.expectedFailure = some failure.kind.name) :
      Meets fixture (.error failure)
  | value (expected value : Float) (unfailing : fixture.expectedFailure = none)
      (expects : fixture.expected = some expected)
      (close : relativeError value expected ≤ fixture.tolerance.getD 0.0) :
      Meets fixture (.ok value)

/-- **What a case compares**: where no failure is expected, the expected value with the one that was
found. -/
structure Compares (fixture : Fixture) (expected value : Float) : Prop where
  unfailing : fixture.expectedFailure = none
  expects : fixture.expected = some expected
  found : fixture.outcome = .ok value

/-- **The verdict on a case.** -/
structure Judged (fixture : Fixture) (result : CaseResult) : Prop where
  name_eq : result.name = fixture.name
  function_eq : result.function = fixture.function.name
  passed_iff : result.passed = true ↔ fixture.Meets fixture.outcome
  /-- An error is told exactly of what was compared. -/
  error_iff : ∀ error, result.error = some error ↔
    ∃ expected value, fixture.Compares expected value ∧ error = relativeError value expected
  /-- A case that expects nothing fails. -/
  aimless : fixture.expectedFailure = none → fixture.expected = none → result.passed = false
  /-- A case whose error is not a number fails. -/
  notANumber : ∀ error, result.error = some error → error.isNaN = true → result.passed = false

section Verdict

variable (fixture : Fixture)

theorem meets_ok {value : Float} : fixture.Meets (.ok value) ↔ fixture.expectedFailure = none ∧
    ∃ expected, fixture.expected = some expected ∧
      relativeError value expected ≤ fixture.tolerance.getD 0.0 := by
  constructor
  · intro meets
    cases meets with
    | value expected _ unfailing expects close => exact ⟨unfailing, expected, expects, close⟩
  · rintro ⟨unfailing, expected, expects, close⟩
    exact .value expected value unfailing expects close

theorem meets_error {failure : Failure} : fixture.Meets (.error failure) ↔
    fixture.expectedFailure = some failure.kind.name := by
  constructor
  · intro meets
    cases meets with
    | failure _ expects => exact expects
  · exact .failure failure

/-- The verdict looks at an expected failure first, and at an expected value where there is none. -/
theorem passed_verify : fixture.verify.passed = true ↔ fixture.Meets fixture.outcome := by
  unfold verify outcome
  cases primaryValue fixture.function fixture.a fixture.b fixture.arg with
  | ok value =>
    rw [meets_ok]
    cases fixture.expectedFailure with
    | some kind => simp
    | none =>
      cases fixture.expected with
      | none => simp
      | some expected => simp
  | error failure =>
    rw [meets_error]
    cases fixture.expectedFailure with
    | some kind =>
      show (failure.kind.name == kind) = true ↔ some kind = some failure.kind.name
      rw [beq_iff_eq, Option.some_inj, eq_comm]
    | none =>
      cases fixture.expected with
      | none => simp
      | some expected => simp

theorem error_verify (error : Float) : fixture.verify.error = some error ↔
    ∃ expected value, fixture.Compares expected value ∧ error = relativeError value expected := by
  constructor
  · unfold verify
    dsimp only
    intro told
    split at told
    next => cases told
    next => cases told
    next expected value unfailing expects found =>
      cases told
      exact ⟨expected, value, ⟨unfailing, expects, found⟩, rfl⟩
    next => cases told
    next => cases told
  · rintro ⟨expected, value, ⟨unfailing, expects, found⟩, rfl⟩
    unfold outcome at found
    simp only [verify, unfailing, expects, found]

/-- Whatever a case expects, what came of it is recorded. -/
theorem actual_verify : fixture.verify.actual = describeOutcome fixture.outcome := by
  unfold verify
  dsimp only
  split <;> rfl

/-- **The verdict on a case is what its own expectations and its own outcome make it.** -/
theorem judged_verify : fixture.Judged fixture.verify where
  name_eq := by
    unfold verify
    dsimp only
    split <;> rfl
  function_eq := by
    unfold verify
    dsimp only
    split <;> rfl
  passed_iff := fixture.passed_verify
  error_iff := fixture.error_verify
  aimless unfailing none := by
    rw [← Bool.not_eq_true, passed_verify]
    cases fixture.outcome with
    | ok value =>
      rw [meets_ok, none]
      rintro ⟨_, expected, expects, _⟩
      cases expects
    | error failure =>
      rw [meets_error, unfailing]
      exact nofun
  notANumber error told notANumber := by
    rw [← Bool.not_eq_true, passed_verify]
    obtain ⟨expected, value, compares, rfl⟩ := (fixture.error_verify error).mp told
    rw [compares.found, meets_ok]
    rintro ⟨_, wanted, expects, close⟩
    cases compares.expects.symm.trans expects
    exact Binary64.not_le_of_isNaN notANumber close

end Verdict

end Fixture

/-! ### Counts -/

/-- **Counts that fit the results.** -/
structure Report.Counted (report : Report) : Prop where
  total_eq : report.total = report.cases.length
  sum_eq : report.total = report.passed + report.failed
  passed_eq : report.passed = report.cases.countP CaseResult.passed
  failed_eq : report.failed = report.failures.length
  failed_eq_zero_iff : report.failed = 0 ↔ report.failures = []

/-- **A report put together from two**: the results of both in order, and the sums of the counts. -/
structure Report.Joins (first second whole : Report) : Prop where
  cases_eq : whole.cases = first.cases ++ second.cases
  total_eq : whole.total = first.total + second.total
  passed_eq : whole.passed = first.passed + second.passed
  failed_eq : whole.failed = first.failed + second.failed

section Counts

variable (set : FixtureSet) (source : List UInt8)

theorem counted_verify : (set.verify source).Counted := by
  have split_length : (set.verify source).total =
      (set.verify source).passed + (set.verify source).failures.length := by
    simp only [FixtureSet.verify, Report.failures]
    rw [← List.countP_eq_length_filter, ← List.countP_eq_length_filter,
      List.length_eq_countP_add_countP CaseResult.passed]
    simp only [Bool.not_eq_true, Bool.decide_eq_false]
  have failed_eq : (set.verify source).failed =
      (set.verify source).total - (set.verify source).passed := rfl
  have failed_eq : (set.verify source).failed = (set.verify source).failures.length := by omega
  refine ⟨rfl, by omega, List.countP_eq_length_filter.symm, failed_eq, ?_⟩
  rw [failed_eq, List.length_eq_zero_iff]

/-- **A report fails nothing exactly if each of its cases passed.** -/
theorem allPassed_verify :
    (set.verify source).allPassed = (set.verify source).cases.all CaseResult.passed := by
  simp only [FixtureSet.verify, Report.allPassed]
  generalize set.cases.map Fixture.verify = cases
  rw [Bool.eq_iff_iff, beq_iff_eq, List.all_eq_true, ← List.length_filter_eq_length_iff]
  have at_most := List.length_filter_le CaseResult.passed cases
  omega

/-- The reports on the parts of a list of cases are put together to the report on all of it. -/
theorem joins_verify (first second whole : FixtureSet)
    (cases_eq : whole.cases = first.cases ++ second.cases)
    (source secondSource wholeSource : List UInt8) :
    (first.verify source).Joins (second.verify secondSource) (whole.verify wholeSource) := by
  have results : (whole.verify wholeSource).cases =
      (first.verify source).cases ++ (second.verify secondSource).cases := by
    simp only [FixtureSet.verify, cases_eq, List.map_append]
  have counted := counted_verify first source
  have secondCounted := counted_verify second secondSource
  have wholeCounted := counted_verify whole wholeSource
  refine ⟨results, ?_, ?_, ?_⟩
  · rw [counted.total_eq, secondCounted.total_eq, wholeCounted.total_eq, results,
      List.length_append]
  · rw [counted.passed_eq, secondCounted.passed_eq, wholeCounted.passed_eq, results,
      List.countP_append]
  · rw [counted.failed_eq, secondCounted.failed_eq, wholeCounted.failed_eq, Report.failures,
      results,
      List.filter_append, List.length_append]
    rfl

end Counts

/-- **Every report holds one verdict for each case, in order, and counts them.** A verdict is made
of its own case alone, whatever else is in the set and whatever bytes the set was read from, so the
cases of two sets, put together in any set, give their results one after the other. -/
theorem verify_judges : ∃ judge : Fixture → CaseResult,
    (∀ fixture : Fixture, fixture.Judged (judge fixture)) ∧
    (∀ (set : FixtureSet) (source : List UInt8),
      (set.verify source).cases = set.cases.map judge ∧ (set.verify source).Counted) ∧
    ∀ (first second : FixtureSet) (version family : String)
      (source secondSource wholeSource : List UInt8),
      (first.verify source).Joins (second.verify secondSource)
        (FixtureSet.verify ⟨version, family, first.cases ++ second.cases⟩ wholeSource) :=
  ⟨Fixture.verify, Fixture.judged_verify, fun set source => ⟨rfl, counted_verify set source⟩,
    fun first second _ _ => joins_verify first second _ rfl⟩

end IncompleteBeta
