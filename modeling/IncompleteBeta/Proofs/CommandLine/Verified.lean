/-
**Files that are verified one after the other.**

* `Verified`: the reports on files, up to the first file that gives none;
* **`verifyAll_verified`**: these are gathered, and logged under consecutive numbers;
* `Passes`, **`Verified.passes_iff`**: all files pass exactly if each gives a report that fails
  nothing.
-/

import IncompleteBeta.Proofs.CommandLine.Reporting
import IncompleteBeta.Proofs.CommandLine.Scenes

namespace IncompleteBeta.CommandLine

open Log (Entry Emitter)

/-- **What comes of files that are verified one after the other**: a report on each, up to the first
file that gives none. -/
inductive Verified (read : PathName → Content) :
    List PathName → List Report → (stopped : Option LoadFault) → Prop where
  | done : Verified read [] [] none
  | stopped {path : PathName} {rest : List PathName} {fault : LoadFault}
      (failed : verifyFile path (read path) = .error fault) :
      Verified read (path :: rest) [] (some fault)
  | next {path : PathName} {rest : List PathName} {report : Report} {reports : List Report}
      {stopped : Option LoadFault} (verified : verifyFile path (read path) = .ok report)
      (later : Verified read rest reports stopped) :
      Verified read (path :: rest) (report :: reports) stopped

/-- **One report adds its lines to the log**, under the next numbers. -/
theorem Verification.record_eq (run : Verification)
    (named : run.emitter.runId = "betainv-verify") (clock : Clock) (elapsed : Nat)
    (report : Report) :
    run.record clock elapsed report =
      { emitter :=
          { runId := "betainv-verify"
            sequence := run.emitter.sequence + (reportEntries clock elapsed report).length }
        log := run.log
          ++ numberedLines (run.emitter.sequence + 1) (reportEntries clock elapsed report)
        reports := run.reports ++ [report] } := by
  rw [record, Emitter.run_write _ (traceId_reportEntries clock elapsed report), named]
  rfl

/-- **Files are verified up to the first that gives no report**, and what was verified is logged
under consecutive numbers. The files are left as they are. -/
theorem verifyAll_verified (timing : Nat → Clock × Nat) (paths : List PathName)
    (run : Verification) (named : run.emitter.runId = "betainv-verify") (scene : Scene) :
    ∃ reports stopped blocks, Verified scene.tree.read paths reports stopped ∧
      List.Forall₂ LogsReport reports blocks ∧
      ∃ (after : Verification) (said : String) (timed : Nat),
        (Host.ofTree timing).verifyAll paths run scene =
          ((after, stopped.map .load), { scene with errors := scene.errors ++ said, timed }) ∧
        after.reports = run.reports ++ reports ∧
        after.log = run.log ++ numberedLines (run.emitter.sequence + 1) blocks.flatten := by
  induction paths generalizing run scene with
  | nil =>
    refine ⟨[], none, [], .done, .nil, run, "", scene.timed, ?_, (List.append_nil _).symm,
      String.append_empty.symm⟩
    rw [String.append_empty]
    rfl
  | cons path rest ih =>
    rw [verifyAll_cons]
    cases verified : verifyFile path (scene.tree.read path) with
    | error fault =>
      refine ⟨[], some fault, [], .stopped verified, .nil, run, "", scene.timed + 1, ?_,
        (List.append_nil _).symm, String.append_empty.symm⟩
      rw [String.append_empty]
      rfl
    | ok report =>
      obtain ⟨clock, elapsed⟩ := timing scene.timed
      dsimp only
      have step := run.record_eq named clock elapsed report
      generalize run.record clock elapsed report = recorded at step ⊢
      obtain ⟨reports, stopped, blocks, later, logs, after, said, timed, ends, gathered, log⟩ :=
        ih recorded (by rw [step])
          { scene with errors := scene.errors ++ reportLines path report, timed := scene.timed + 1 }
      obtain ⟨bytes, set, -, rfl⟩ := verifyFile_eq_ok.mp verified
      have tells := logsReport_entries clock elapsed (allPassed_verify set bytes)
      refine ⟨_ :: reports, stopped, _ :: blocks, .next verified later, .cons tells logs, after,
        reportLines path (set.verify bytes) ++ said, timed, ?_, ?_, ?_⟩
      · rw [ends, String.append_assoc]
      · rw [gathered, step, List.append_assoc, List.singleton_append]
      · rw [log, step, List.flatten_cons, numberedLines_append, String.append_assoc,
          Nat.add_right_comm]

/-- What comes of files is told by what is in them. -/
theorem Verified.unique {read : PathName → Content} {paths : List PathName}
    {reports others : List Report} {stopped halted : Option LoadFault}
    (verified : Verified read paths reports stopped)
    (rival : Verified read paths others halted) : reports = others ∧ stopped = halted := by
  induction verified generalizing others with
  | done =>
    cases rival
    exact ⟨rfl, rfl⟩
  | stopped failed =>
    cases rival with
    | stopped failedAlso =>
      cases failed.symm.trans failedAlso
      exact ⟨rfl, rfl⟩
    | next found _ => cases failed.symm.trans found
  | next found _ ih =>
    cases rival with
    | stopped failed => cases found.symm.trans failed
    | next foundAlso later =>
      obtain ⟨rfl, rfl⟩ := ih later
      cases found.symm.trans foundAlso
      exact ⟨rfl, rfl⟩

/-! ### Files that pass -/

/-- **A file passes**: it is read, its text is a set of fixtures, and no case of them fails. -/
def Passes (content : Content) : Prop :=
  ∃ bytes set, Holds content bytes set ∧
    ∀ fixture ∈ set.cases, fixture.verify.passed = true

theorem allPassed_iff {path : PathName} {content : Content} {report : Report}
    (verified : verifyFile path content = .ok report) :
    report.allPassed = true ↔ Passes content := by
  have cases_passed (set : FixtureSet) (bytes : List UInt8) :
      (set.verify bytes).allPassed = true ↔
        ∀ fixture ∈ set.cases, fixture.verify.passed = true := by
    rw [allPassed_verify, List.all_eq_true]
    exact List.forall_mem_map
  obtain ⟨bytes, set, holds, rfl⟩ := verifyFile_eq_ok.mp verified
  rw [cases_passed]
  constructor
  · exact fun passed => ⟨bytes, set, holds, passed⟩
  · rintro ⟨readBytes, readSet, alsoHolds, passed⟩
    have same : readSet.verify readBytes = set.verify bytes := Except.ok.inj
      ((verifyFile_eq_ok.mpr ⟨readBytes, readSet, alsoHolds, rfl⟩).symm.trans verified)
    rw [← cases_passed set bytes, ← same, cases_passed]
    exact passed

/-- **All files pass exactly if each gives a report that fails nothing.** -/
theorem Verified.passes_iff {read : PathName → Content} {paths : List PathName}
    {reports : List Report} {stopped : Option LoadFault}
    (verified : Verified read paths reports stopped) :
    (stopped = none ∧ reports.all Report.allPassed = true) ↔
      ∀ path ∈ paths, Passes (read path) := by
  induction verified with
  | done => exact iff_of_true ⟨rfl, rfl⟩ (List.forall_mem_nil _)
  | @stopped path rest fault failed =>
    refine iff_of_false (fun none => nomatch none.1) fun passes => ?_
    obtain ⟨bytes, set, holds, -⟩ := passes path List.mem_cons_self
    have verified : verifyFile path (read path) = .ok (set.verify bytes) :=
      verifyFile_eq_ok.mpr ⟨bytes, set, holds, rfl⟩
    rw [failed] at verified
    cases verified
  | next verified later ih =>
    rw [List.forall_mem_cons, ← ih, List.all_cons, Bool.and_eq_true, allPassed_iff verified,
      and_left_comm]

end IncompleteBeta.CommandLine
