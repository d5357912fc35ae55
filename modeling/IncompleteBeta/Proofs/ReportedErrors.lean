/-
**Errors of comparisons in reports that are read back.**

* `Fixture.Reported`: the error that a result tells of a comparison, and how it is written;
* `CaseResult.ReadBack`: a result as it is read back, with the error that its digits are read as;
* **`reported_verify`**: what every case of a set that was read is reported as;
* **`readBack_report`**, `readBack_run`: how the results of a report, and of the reports of a run,
  are read back;
* **`errors_read_back`**: both for the reports on sets that were read;
* `errors_lost_or_altered`: an error that is read back otherwise, and one that is not read back.
-/

import IncompleteBeta.Proofs.Fixture
import IncompleteBeta.Proofs.RelativeError
import IncompleteBeta.Proofs.Report

namespace IncompleteBeta

open CommandLine (Verification)
open Json
open Binary64 (value)

/-- **What a result tells of a comparison.** -/
structure Fixture.Reported (fixture : Fixture) (result : CaseResult) : Prop where
  /-- An error is told exactly of what was compared. -/
  told : ∀ error, result.error = some error ↔
    ∃ expected found, fixture.Compares expected found ∧ error = relativeError found expected
  /-- It is finite if the value is, and if it is in range. -/
  finite : ∀ expected found, fixture.Compares expected found → found.isFinite = true →
    ErrorInRange found expected → (relativeError found expected).isFinite = true
  /-- Then it is written as the last member of the result, by its digits: not as `null`, and such
  that it is the nearest double to them. -/
  shown : ∀ error, result.error = some error → error.isFinite = true →
    (∃ members, result.toValue = .object (members ++ [("error", .float error)])) ∧
      floatText error ≠ ['n', 'u', 'l', 'l'] ∧ Reads readNearest (floatText error) (.ok error)

/-- **A result as it is read back**: all of it but the digits of its error. -/
structure CaseResult.ReadBack (result later : CaseResult) : Prop where
  same : later = { result with error := later.error }
  /-- A finite error comes back as the double that its digits are read as, and never as none. -/
  finite : ∀ error, result.error = some error → error.isFinite = true →
    ∃ readError, later.error = some readError ∧ reread error = .ok readError ∧
      (readError = error ↔ ReadsBack error)
  absent : result.error = none → later.error = none

/-! ### Reports -/

section Reported

variable {text : String} {set : FixtureSet}

theorem floatText_ne_null {x : Float} (finite : x.isFinite = true) :
    floatText x ≠ ['n', 'u', 'l', 'l'] := by
  obtain ⟨c, rest, leading, number⟩ := floatText_eq_cons finite
  rw [leading]
  rintro ⟨⟩
  rcases number with minus | digit
  · cases minus
  · cases digit

/-- An error is the last member of a result. -/
theorem toValue_of_error {result : CaseResult} {error : Float} (told : result.error = some error) :
    ∃ members, result.toValue = .object (members ++ [("error", .float error)]) := by
  rw [CaseResult.toValue, told]
  exact ⟨_, rfl⟩

/-- **Every case of a set that was read is reported**: its reference is finite. -/
theorem reported_verify (read : FixtureSet.ofJson text = .ok set) {fixture : Fixture}
    (inside : fixture ∈ set.cases) : fixture.Reported fixture.verify where
  told := fixture.error_verify
  finite expected found compares finite range := by
    have given : expected ∈ fixture.numbers := by
      rw [Fixture.numbers, compares.expects]
      simp
    have finite_expected : expected.isFinite = true :=
      isFinite_of_ofJson read expected (List.mem_flatMap.mpr ⟨fixture, inside, given⟩)
    exact (isFinite_relativeError_iff finite finite_expected).mpr range
  shown error told finite :=
    ⟨toValue_of_error told, floatText_ne_null finite, reads_nearest finite⟩

/-- The counts of a report fit a word if the number of its cases does. -/
theorem fits_verify (fits : set.cases.length < 2 ^ 64) (source : List UInt8) :
    (set.verify source).Fits := by
  have counted := counted_verify set source
  have total : (set.verify source).total = set.cases.length :=
    List.length_map Fixture.verify
  have sum := counted.sum_eq
  exact ⟨by omega, by omega, by omega⟩

end Reported

/-! ### Results that are read back -/

section ReadBack

/-- The values of a traversal belong to what was traversed. -/
theorem forall₂_of_mapM {ε α β : Type} {step : α → Except ε β} {values : List α} {laters : List β}
    (traversed : values.mapM step = .ok laters) :
    List.Forall₂ (fun value later => step value = .ok later) values laters := by
  induction values generalizing laters with
  | nil =>
    cases traversed
    exact .nil
  | cons value values ih =>
    rw [List.mapM_cons] at traversed
    obtain ⟨head, first, traversed⟩ := bind_eq_ok.mp traversed
    obtain ⟨tail, others, same⟩ := bind_eq_ok.mp traversed
    cases same
    exact .cons first (ih others)

theorem readBack_of_written {result later : CaseResult}
    (read : result.written.rereadBy Json.reread = .ok later) : result.ReadBack later := by
  obtain ⟨name, function, passed, expected, actual, error⟩ := result
  obtain ⟨readError, reads, same⟩ := bind_eq_ok.mp read
  cases same
  refine ⟨rfl, ?_, ?_⟩
  · rintro x ⟨rfl⟩ finite
    rw [CaseResult.written, Option.filter_some_pos finite, Option.mapM_some] at reads
    obtain ⟨y, reread, same⟩ := map_eq_ok.mp reads
    cases same
    refine ⟨y, rfl, reread, ?_⟩
    rw [readsBack_iff finite, reread, Except.ok.injEq]
  · rintro ⟨rfl⟩
    cases reads
    rfl

variable {report later : Report}

theorem ofJson_compact_written (fits : report.Fits) :
    Report.ofJson report.toValue.compact = report.written.reread := by
  rw [Report.ofJson, ← formatBy_readFloat]
  exact (whole_written (fun _ => reads_float) fits).1

theorem ofJson_pretty_written (fits : report.Fits) :
    Report.ofJson report.toValue.pretty = report.written.reread := by
  rw [Report.ofJson, ← formatBy_readFloat]
  exact (whole_written (fun _ => reads_float) fits).2

/-- The results of a report that is read back, with or without errors that have no number. -/
theorem readBack_of_reread (read : report.written.reread = .ok later) :
    List.Forall₂ CaseResult.ReadBack report.cases later.cases := by
  obtain ⟨cases, traversed, same⟩ := bind_eq_ok.mp read
  cases same
  have steps := forall₂_of_mapM traversed
  rw [Report.written, List.forall₂_map_left_iff] at steps
  exact steps.imp fun _ _ => readBack_of_written

/-- **The results of a report are read back**, from its text on one line or on many. -/
theorem readBack_report (fits : report.Fits)
    (read : Report.ofJson report.toValue.compact = .ok later ∨
      Report.ofJson report.toValue.pretty = .ok later) :
    List.Forall₂ CaseResult.ReadBack report.cases later.cases := by
  rw [ofJson_compact_written fits, ofJson_pretty_written fits, or_self] at read
  exact readBack_of_reread read

/-- **The results of the reports of a run are read back** from the list that is written of it. -/
theorem readBack_run {run : Verification} (fits : ∀ report ∈ run.reports, report.Fits)
    {laters : List Report}
    (read : whole (readList Report.format.read) run.reportText = .ok laters) :
    List.Forall₂ (fun report later => List.Forall₂ CaseResult.ReadBack report.cases later.cases)
      run.reports laters := by
  have reread : whole (readList Report.format.read) run.reportText =
      run.reports.mapM fun report => report.written.reread := by
    rw [Verification.reportText, Json.pretty, prettyText_eq]
    exact (reads_list fun report inside =>
      reads_written_report (fun _ => reads_float) 1 (fits report inside)).line
  rw [reread] at read
  exact (forall₂_of_mapM read).imp fun _ _ => readBack_of_reread

end ReadBack

/-! ### Sets that were read -/

section Sets

/-- **The errors of comparisons come back.** Every case of a set that was read is reported: with an
error for what was compared, finite if the value is and the error is in range, and written by its
digits. What is read back of the report tells, for every such error, the double that these digits
are read as. If all errors are finite, the report comes back exactly if each is read as it is
written, and to a reader that rounds to nearest in any case. Errors of probabilities are in range,
unless the reference is below the normal numbers. -/
theorem errors_read_back {text : String} {set : FixtureSet}
    (read : FixtureSet.ofJson text = .ok set) (fits : set.cases.length < 2 ^ 64)
    (source : List UInt8) :
    List.Forall₂ Fixture.Reported set.cases (set.verify source).cases ∧
    (∀ later, Report.ofJson (set.verify source).toValue.compact = .ok later ∨
        Report.ofJson (set.verify source).toValue.pretty = .ok later →
      List.Forall₂ CaseResult.ReadBack (set.verify source).cases later.cases) ∧
    ((set.verify source).Fits ∧ ∀ run : Verification, (∀ report ∈ run.reports, report.Fits) →
      ∀ laters, whole (readList Report.format.read) run.reportText = .ok laters →
      List.Forall₂ (fun report later => List.Forall₂ CaseResult.ReadBack report.cases later.cases)
        run.reports laters) ∧
    ((∀ x ∈ (set.verify source).numbers, x.isFinite = true) →
      Report.ofJson (set.verify source).toValue.compact = (set.verify source).reread ∧
      Report.ofJson (set.verify source).toValue.pretty = (set.verify source).reread ∧
      ((set.verify source).reread = .ok (set.verify source) ↔
        ∀ x ∈ (set.verify source).numbers, ReadsBack x) ∧
      whole (Report.formatBy readNearest).read (set.verify source).toValue.compact =
        .ok (set.verify source)) ∧
    ∀ x y : Float, Binary64.InUnit x → value y = 0 ∨ 2 ^ (-1022 : ℤ) ≤ |value y| →
      ErrorInRange x y := by
  have fits := fits_verify fits source
  refine ⟨?_, fun later => readBack_report fits, ⟨fits, fun run fit laters => readBack_run fit⟩,
    fun finite => ?_, fun x y => errorInRange_of_unit⟩
  · refine List.forall₂_map_right_iff.mpr (List.forall₂_same.mpr fun fixture inside => ?_)
    exact reported_verify read inside
  · have held : (set.verify source).Held := ⟨fits.total, fits.passed, fits.failed, finite⟩
    exact ⟨ofJson_compact held, ofJson_pretty held, reread_iff_readsBack held,
      (whole_nearest held).1⟩

/-- The lower tail at 1, which is 1, against a reference. -/
def tailAtOne (expected : Float) : Fixture :=
  ⟨"one", .lowerTail, 2.0, 3.0, 1.0, some expected, none, none⟩

def setAtOne (expected : Float) : FixtureSet := ⟨"1", "beta", [tailAtOne expected]⟩

theorem error_tailAtOne (expected : Float) :
    (tailAtOne expected).verify.error = some (relativeError 1.0 expected) := by
  have found : lowerTail 2.0 3.0 1.0 = .ok 1.0 := eq_ok_of_toOption (by decide +kernel)
  exact (Fixture.error_verify _ _).mpr ⟨expected, 1.0, ⟨rfl, rfl, found⟩, rfl⟩

theorem numbers_setAtOne (expected : Float) :
    ((setAtOne expected).verify []).numbers = [relativeError 1.0 expected] := by
  show (Fixture.verify _).error.toList ++ [] = _
  rw [error_tailAtOne]
  rfl

/-- The set is read if its reference is read back from its own text. -/
theorem read_setAtOne {expected : Float} (finite : expected.isFinite = true)
    (back : reread expected = .ok expected) :
    FixtureSet.ofJson (setAtOne expected).toJson = .ok (setAtOne expected) := by
  have numbers : (setAtOne expected).numbers = [2.0, 3.0, 1.0, expected] := rfl
  have finite : ∀ x ∈ [2.0, 3.0, 1.0, expected], x.isFinite = true := by
    simp only [List.forall_mem_cons, List.not_mem_nil, false_imp_iff, implies_true, and_true]
    exact ⟨rfl, rfl, rfl, finite⟩
  rw [ofJson_toJson_iff (numbers ▸ finite), numbers]
  intro x inside
  rw [readsBack_iff (finite x inside)]
  revert x
  simp only [List.forall_mem_cons, List.not_mem_nil, false_imp_iff, implies_true, and_true]
  exact ⟨by decide +kernel, by decide +kernel, by decide +kernel, back⟩

/-- Against one half the error is 1, and comes back with its report. -/
theorem errors_read_back_half :
    Report.ofJson ((setAtOne 0.5).verify []).toValue.compact = .ok ((setAtOne 0.5).verify []) := by
  have read : FixtureSet.ofJson (setAtOne 0.5).toJson = .ok (setAtOne 0.5) :=
    read_setAtOne Binary64.isFinite_half (by decide +kernel)
  have numbers : ((setAtOne 0.5).verify []).numbers = [1.0] := by
    have error : relativeError 1.0 0.5 = 1.0 := by decide +kernel
    rw [numbers_setAtOne, error]
  have finite : ∀ x ∈ ((setAtOne 0.5).verify []).numbers, x.isFinite = true := by
    rw [numbers, List.forall_mem_singleton]
    exact Binary64.isFinite_one
  have brief : Brief 1.0 := ⟨by decide +kernel, by decide +kernel, by decide +kernel⟩
  obtain ⟨_, _, _, back, _⟩ := errors_read_back read (by decide) []
  obtain ⟨reread, _, unchanged, _⟩ := back finite
  rw [reread, unchanged, numbers, List.forall_mem_singleton]
  exact readsBack_of_brief Binary64.isFinite_one brief

/-- What is read back of the error at 1. -/
theorem ofJson_setAtOne (expected : Float) (error : Option Float)
    (read : ((some (relativeError 1.0 expected)).filter Float.isFinite).mapM reread = .ok error) :
    ∃ later, Report.ofJson ((setAtOne expected).verify []).toValue.compact = .ok later ∧
      later.numbers = error.toList := by
  have fits : (setAtOne expected).cases.length < 2 ^ 64 := (by decide : 1 < 2 ^ 64)
  rw [ofJson_compact_written (fits_verify fits [])]
  have result : (tailAtOne expected).verify.written.rereadBy reread =
      .ok { (tailAtOne expected).verify with error } := by
    rw [CaseResult.rereadBy, CaseResult.written, error_tailAtOne, read]
    rfl
  refine ⟨{ (setAtOne expected).verify [] with
    cases := [{ (tailAtOne expected).verify with error }] }, ?_, List.append_nil _⟩
  show List.mapM _ [(tailAtOne expected).verify.written] >>= _ = _
  rw [List.mapM_cons, result]
  rfl

/-- **An error may be read back as another number, or not at all**, although its set was read: the
digits of the error against 0.8 are read as the double below, and the error against the least double
is infinite and written as `null`. -/
theorem errors_lost_or_altered :
    (FixtureSet.ofJson (setAtOne 0.8).toJson = .ok (setAtOne 0.8) ∧
      ((setAtOne 0.8).verify []).numbers = [0.24999999999999994] ∧
      ∃ later, Report.ofJson ((setAtOne 0.8).verify []).toValue.compact = .ok later ∧
        later.numbers = [0.24999999999999992]) ∧
    (0.24999999999999994 : Float) ≠ 0.24999999999999992 ∧
    FixtureSet.ofJson (setAtOne 5e-324).toJson = .ok (setAtOne 5e-324) ∧
    (∃ error, ((setAtOne 5e-324).verify []).numbers = [error] ∧ error.isFinite = false) ∧
    ∃ later, Report.ofJson ((setAtOne 5e-324).verify []).toValue.compact = .ok later ∧
      later.numbers = [] := by
  have error : relativeError 1.0 0.8 = 0.24999999999999994 := by decide +kernel
  have infinite : (relativeError 1.0 5e-324).isFinite = false := by decide +kernel
  refine ⟨⟨read_setAtOne (by decide +kernel) (by decide +kernel), ?_, ?_⟩, by decide +kernel,
    read_setAtOne (by decide +kernel) (by decide +kernel), ?_, ?_⟩
  · rw [numbers_setAtOne, error]
  · refine ofJson_setAtOne 0.8 (some 0.24999999999999992) ?_
    rw [error]
    decide +kernel
  · exact ⟨_, numbers_setAtOne 5e-324, infinite⟩
  · refine ofJson_setAtOne 5e-324 none ?_
    rw [Option.filter_some_neg infinite]
    rfl

end Sets

end IncompleteBeta
