/-
**What is logged of reports.**

* `LogsCase`, `LogsSet`, `LogsReport`: the entries for a case, for all of them, and for a report;
* `numberedLines`, `IsLog`: the log of reports, with entries that are numbered from one on;
* `logsReport_entries`: what is written for a report is that.
-/

import IncompleteBeta.CommandLine.Run
import IncompleteBeta.Proofs.Log.Stream
import IncompleteBeta.Proofs.Verification

namespace IncompleteBeta.CommandLine

open Log (Entry Emitter)

/-- **An entry tells of a case**: what it was, and whether it passed. -/
structure LogsCase (family : String) (result : CaseResult) (entry : Entry) : Prop where
  event : entry.event = "case_result"
  family : entry.family = some family
  symbol : entry.symbol = some result.function
  level : entry.level = if result.passed then .info else .error
  verdict : entry.verdict = some (if result.passed then .pass else .fail)
  details : entry.details = some (.object
    [("actual", .string result.actual), ("case", .string result.name),
      ("error", (result.error.map Json.ofFloat).getD .null),
      ("expected", .string result.expected)])

/-- **An entry tells of a report**: its counts and its digest, and whether all of its cases
passed. -/
structure LogsSet (report : Report) (entry : Entry) : Prop where
  event : entry.event = "fixture_set_verified"
  family : entry.family = some report.family
  level : entry.level = if report.cases.all CaseResult.passed then .info else .warn
  verdict : entry.verdict = some (if report.cases.all CaseResult.passed then .pass else .fail)
  details : entry.details = some (.object
    [("failed", .ofNat report.failed), ("passed", .ofNat report.passed),
      ("source_sha256", .string report.digest), ("total", .ofNat report.total),
      ("version", .string report.version)])

/-- **Entries tell of a report**: one for each case, and then one for all of them. -/
def LogsReport (report : Report) (entries : List Entry) : Prop :=
  ∃ results last, entries = results ++ [last] ∧
    List.Forall₂ (LogsCase report.family) report.cases results ∧ LogsSet report last

/-- The lines of entries that are numbered from a number on. -/
def numberedLines (number : Nat) (entries : List Entry) : String :=
  String.join ((Emitter.numbered "betainv-verify" number entries).map fun entry =>
    entry.line ++ "\n")

theorem numberedLines_append (number : Nat) (entries more : List Entry) :
    numberedLines number (entries ++ more) =
      numberedLines number entries ++ numberedLines (number + entries.length) more := by
  rw [numberedLines, Emitter.numbered_append, List.map_append, String.join_append]
  rfl

/-- **The log of reports**: the entries for each of them in their order, numbered from one on. -/
def IsLog (reports : List Report) (text : String) : Prop :=
  ∃ blocks, List.Forall₂ LogsReport reports blocks ∧ text = numberedLines 1 blocks.flatten

section Entries

variable (clock : Clock) (elapsed : Nat) {report : Report}

theorem logsCase_entry (family : String) (result : CaseResult) :
    LogsCase family result (resultEntry clock family result) :=
  ⟨rfl, rfl, rfl, rfl, rfl, rfl⟩

theorem logsSet_entry (counted : report.allPassed = report.cases.all CaseResult.passed) :
    LogsSet report (reportEntry clock elapsed report) := by
  refine ⟨rfl, rfl, ?_, ?_, rfl⟩ <;> rw [← counted] <;> rfl

/-- **What is written for a report tells of it.** -/
theorem logsReport_entries (counted : report.allPassed = report.cases.all CaseResult.passed) :
    LogsReport report (reportEntries clock elapsed report) := by
  refine ⟨_, _, rfl, ?_, logsSet_entry clock elapsed counted⟩
  rw [List.forall₂_map_right_iff]
  exact List.forall₂_same.mpr fun result _ => logsCase_entry clock report.family result

theorem traceId_reportEntries (report : Report) :
    ∀ entry ∈ reportEntries clock elapsed report, entry.traceId = "" := by
  rw [reportEntries, List.forall_mem_append, List.forall_mem_map, List.forall_mem_singleton]
  exact ⟨fun _ _ => rfl, rfl⟩

end Entries

end IncompleteBeta.CommandLine
