/-
**What a run of `verify` comes to.**

* `Ends`, **`verifyTree_ends`**: how a run ends once its files are selected and its log is made;
* `verifyTree_cases`: it breaks off before that, or its files are verified;
* `Leaves`, `Accounts`, **`verify_accounts`**: the exit, the reports and the log of a run, by the
  files that were selected and what is in them;
* `log_overwritten`: reports that are written to the place of the log leave nothing of it, as
  **`log_lost`** shows of a tree with one file.
-/

import IncompleteBeta.Proofs.CommandLine.Outputs
import IncompleteBeta.Proofs.CommandLine.Selection
import IncompleteBeta.Proofs.CommandLine.Verified

namespace IncompleteBeta.CommandLine

open Files (FileTree)
open Log (Entry Emitter)

/-! ### Whole runs -/

/-- The text of reports. -/
def reportsText (reports : List Report) : String :=
  (Json.array (reports.map Report.toValue)).pretty ++ "\n"

/-- **How a run ends** over a tree in which its log is complete. -/
inductive Ends (wording : Wording) (reports : List Report) (report : Option PathName)
    (logged : FileTree) : (stopped : Option LoadFault) → Result → Prop where
  /-- A file gave no report. -/
  | stopped {fault : LoadFault} (said : String) :
      Ends wording reports report logged (some fault) (broken wording said (.load fault) logged)
  /-- The reports could not be written. -/
  | refused {fault : RunFault} (said : String)
      (failed : writeTo logged report (reportsText reports) = .error fault) :
      Ends wording reports report logged none (broken wording said fault logged)
  | reported {tree : FileTree} (said : String)
      (written : writeTo logged report (reportsText reports) = .ok tree) :
      Ends wording reports report logged none
        { exit := if reports.all Report.allPassed then 0 else 1
          output := if report.isSome then "" else reportsText reports
          errors := said
          tree }

section Runs

variable {tree made : FileTree} {fixture : PathName} {report log : Option PathName}
  {paths : List PathName} (timing : Nat → Clock × Nat) (wording : Wording)

section Delivery

variable (run : Verification) (scene : Scene)

/-- The reports are written, and what has been printed is left as it is. -/
theorem run_deliver_ok (written : writeTo scene.tree report run.reportText = .ok tree) :
    ((Host.ofTree timing).deliver report run).run scene =
      (.ok run.allPassed,
        { scene with
          tree
          output := scene.output ++ if report.isSome then "" else run.reportText }) := by
  rw [Host.deliver, run_bind_ok (by rw [run_save, written])]
  cases report with
  | none => rfl
  | some path =>
    rw [Option.isSome_some, if_pos rfl, String.append_empty]
    rfl

theorem run_deliver_error {fault : RunFault}
    (failed : writeTo scene.tree report run.reportText = .error fault) :
    ((Host.ofTree timing).deliver report run).run scene = (.error fault, scene) :=
  run_bind_error (by rw [run_save, failed])

end Delivery

section Files

variable {scene later : Scene} {after : Verification} {logged : FileTree}

/-- Where a file gives no report, the log is still written. -/
theorem run_verifyFiles_stopped {fault : RunFault}
    (ends : (Host.ofTree timing).verifyAll paths .start scene = ((after, some fault), later))
    (complete : writeTo later.tree log after.log = .ok logged) :
    ((Host.ofTree timing).verifyFiles paths report log).run scene =
      (.error fault, { later with tree := logged }) := by
  rw [Host.verifyFiles, run_bind_ok (by rw [run_lift, ends]),
    run_bind_ok (by rw [run_save, complete])]
  rfl

/-- Where every file gives a report, the log is written before the reports. -/
theorem run_verifyFiles_completed
    (ends : (Host.ofTree timing).verifyAll paths .start scene = ((after, none), later))
    (complete : writeTo later.tree log after.log = .ok logged) :
    ((Host.ofTree timing).verifyFiles paths report log).run scene =
      ((Host.ofTree timing).deliver report after).run { later with tree := logged } := by
  rw [Host.verifyFiles, run_bind_ok (by rw [run_lift, ends]),
    run_bind_ok (by rw [run_save, complete])]

end Files

/-! ### The steps of a run -/

/-- A run without files breaks off at once. -/
theorem verifyTree_misused (none : ∀ paths, ¬Selected fixture (tree.listing fixture) paths) :
    verifyTree timing wording tree fixture report log =
      broken wording "" (noFixtures fixture) tree := by
  have fails : selectFixtures fixture (tree.listing fixture) = .error (noFixtures fixture) :=
    selectFixtures_eq_error.mpr ⟨none, rfl⟩
  have breaks : ((Host.ofTree timing).verify fixture report log).run { tree } =
      (.error (noFixtures fixture), { tree }) := by
    rw [Host.verify, run_bind_ok (run_listing timing fixture { tree }),
      run_bind_error (by rw [run_except, fails])]
  exact over_perform_error timing wording breaks

section Selecting

variable (selected : Selected fixture (tree.listing fixture) paths)
include selected

/-- A run whose files are selected goes on to make its log. -/
theorem run_verify_selected :
    ((Host.ofTree timing).verify fixture report log).run { tree } =
      ((Host.ofTree timing).save log "" >>= fun _ =>
        (Host.ofTree timing).verifyFiles paths report log).run { tree } := by
  rw [Host.verify, run_bind_ok (run_listing timing fixture { tree }),
    run_bind_ok (by rw [run_except, selectFixtures_eq_ok.mpr selected])]

/-- A run whose log cannot be made breaks off before any file is read. -/
theorem verifyTree_unlogged {fault : RunFault} (failed : writeTo tree log "" = .error fault) :
    verifyTree timing wording tree fixture report log = broken wording "" fault tree := by
  have breaks : ((Host.ofTree timing).verify fixture report log).run { tree } =
      (.error fault, { tree }) := by
    rw [run_verify_selected timing selected, run_bind_error (by rw [run_save, failed])]
  exact over_perform_error timing wording breaks

/-- **How a run ends once its files are selected and its log is made.** -/
theorem verifyTree_ends (created : writeTo tree log "" = .ok made) :
    ∃ reports stopped text logged, Verified made.read paths reports stopped ∧
      IsLog reports text ∧ writeTo made log text = .ok logged ∧
      Ends wording reports report logged stopped
        (verifyTree timing wording tree fixture report log) := by
  obtain ⟨reports, stopped, blocks, verified, logs, after, said, timed, ends, gathered, lines⟩ :=
    verifyAll_verified timing paths .start rfl { tree := made }
  obtain ⟨logged, complete⟩ :
      ∃ logged, writeTo made log (numberedLines 1 blocks.flatten) = .ok logged :=
    (writable_iff _).mp ((writable_writeTo created).mpr ((writable_iff "").mpr ⟨made, created⟩))
  refine ⟨reports, stopped, _, logged, verified, ⟨blocks, logs, rfl⟩, complete, ?_⟩
  have log_eq : after.log = numberedLines 1 blocks.flatten := lines.trans String.empty_append
  have reports_eq : after.reports = reports := gathered.trans (List.nil_append _)
  have goesOn : ((Host.ofTree timing).verify fixture report log).run { tree } =
      ((Host.ofTree timing).verifyFiles paths report log).run { tree := made } := by
    rw [run_verify_selected timing selected, run_bind_ok (by rw [run_save, created])]
  rw [← log_eq] at complete
  rw [verifyTree]
  cases stopped with
  | some fault =>
    have breaks := goesOn.trans (run_verifyFiles_stopped timing ends complete)
    rw [over_perform_error timing wording breaks]
    exact .stopped _
  | none =>
    have completes := goesOn.trans (run_verifyFiles_completed timing ends complete)
    have text_eq : after.reportText = reportsText reports := by
      rw [Verification.reportText, reports_eq, reportsText]
    cases written : writeTo logged report (reportsText reports) with
    | error fault =>
      rw [← text_eq] at written
      have breaks := completes.trans (run_deliver_error timing after _ written)
      rw [over_perform_error timing wording breaks]
      exact .refused _ (text_eq ▸ written)
    | ok tree =>
      rw [← text_eq] at written
      have done := completes.trans (run_deliver_ok timing after _ written)
      rw [over_perform_ok timing wording done, String.empty_append, Verification.allPassed,
        reports_eq, text_eq]
      exact .reported _ (text_eq ▸ written)

end Selecting

/-- **A run breaks off before any file is read, or its files are verified.** -/
theorem verifyTree_cases (tree : FileTree) (fixture : PathName) (report log : Option PathName) :
    ((∃ fault, verifyTree timing wording tree fixture report log = broken wording "" fault tree) ∧
        ∀ made paths, writeTo tree log "" = .ok made →
          ¬Selected fixture (tree.listing fixture) paths) ∨
      ∃ made paths, writeTo tree log "" = .ok made ∧
        Selected fixture (tree.listing fixture) paths := by
  by_cases selects : ∃ paths, Selected fixture (tree.listing fixture) paths
  · obtain ⟨paths, selected⟩ := selects
    cases created : writeTo tree log "" with
    | ok made => exact .inr ⟨made, paths, rfl, selected⟩
    | error fault =>
      exact .inl ⟨⟨fault, verifyTree_unlogged timing wording selected created⟩, nofun⟩
  · have none : ∀ paths, ¬Selected fixture (tree.listing fixture) paths := not_exists.mp selects
    exact .inl ⟨⟨_, verifyTree_misused timing wording none⟩, fun _ paths _ => none paths⟩

end Runs

/-! ### What a run comes to -/

section Ended

variable {wording : Wording} {reports : List Report} {report : Option PathName} {logged : FileTree}
  {stopped : Option LoadFault} {result : Result}

theorem Ends.exit (ends : Ends wording reports report logged stopped result) :
    result.exit = 0 ∨ result.exit = 1 := by
  cases ends with
  | stopped said => exact .inr rfl
  | refused said failed => exact .inr rfl
  | reported said written =>
    dsimp only
    split
    · exact .inl rfl
    · exact .inr rfl

/-- **A run succeeds exactly if each file gave a report that fails nothing**, and the reports were
written. -/
theorem Ends.exit_eq_zero (ends : Ends wording reports report logged stopped result) :
    result.exit = 0 ↔
      (stopped = none ∧ reports.all Report.allPassed = true) ∧ Writable logged report := by
  cases ends with
  | stopped said => exact iff_of_false nofun fun ends => nomatch ends.1.1
  | refused said failed => exact iff_of_false nofun fun ends => not_writable failed ends.2
  | reported said written =>
    have writable : Writable logged report := (writable_iff (reportsText reports)).mpr ⟨_, written⟩
    cases passed : reports.all Report.allPassed <;> simp [writable]

end Ended

/-- **What a run leaves behind** of the reports on its files and of the text of its log. -/
structure Leaves (tree made : FileTree) (report log : Option PathName) (reports : List Report)
    (stopped : Option LoadFault) (text : String) (result : Result) : Prop where
  /-- If every file gave a report, the reports are written. -/
  reported : stopped = none → Writable tree report →
    (report = none → result.output = reportsText reports) ∧
      ∀ path ∈ report, result.tree.read path = .ok (Text.utf8Bytes (reportsText reports))
  /-- Otherwise nothing but the log is. -/
  unreported : ¬(stopped = none ∧ Writable tree report) →
    result.output = "" ∧ writeTo made log text = .ok result.tree
  /-- The log is there, unless the reports were written over it. -/
  logged : ∀ path ∈ log, (stopped = none → ∀ other ∈ report, Apart tree path other) →
    result.tree.read path = .ok (Text.utf8Bytes text)

/-- **What a run of `verify` comes to**, by the files that are selected, what is in them once the
log is made, and where its outputs lead. -/
structure Accounts (wording : Wording) (tree : FileTree) (fixture : PathName)
    (report log : Option PathName) (result : Result) : Prop where
  /-- The order in which a directory is listed does not matter. -/
  order : ∀ names paths, names.Perm (tree.entries fixture) →
    (Selected fixture (some names) paths ↔ Selected fixture (some (tree.entries fixture)) paths)
  /-- A directory without fixtures is misused. -/
  misused : (∀ paths, ¬Selected fixture (tree.listing fixture) paths) →
    result = broken wording "" (noFixtures fixture) tree
  exit : result.exit = 0 ∨ result.exit = 1
  /-- A run succeeds exactly if its outputs can be written and all of its files pass. -/
  success : result.exit = 0 ↔ ∃ made paths, writeTo tree log "" = .ok made ∧
    Selected fixture (tree.listing fixture) paths ∧ (∀ path ∈ paths, Passes (made.read path)) ∧
      Writable tree report
  outputs : ∀ made paths, writeTo tree log "" = .ok made →
    Selected fixture (tree.listing fixture) paths →
      ∃ reports stopped text, Verified made.read paths reports stopped ∧ IsLog reports text ∧
        Leaves tree made report log reports stopped text result

section Account

variable {tree made : FileTree} {fixture : PathName} {report log : Option PathName}
  {paths : List PathName} {wording : Wording}

theorem Ends.leaves {reports : List Report} {stopped : Option LoadFault} {text : String}
    {logged : FileTree} {result : Result} (created : writeTo tree log "" = .ok made)
    (complete : writeTo made log text = .ok logged)
    (ends : Ends wording reports report logged stopped result) :
    Leaves tree made report log reports stopped text result := by
  have opens {path : PathName} {place : List FileName} :
      logged.Opens path place ↔ tree.Opens path place :=
    (opens_writeTo complete).trans (opens_writeTo created)
  have writable : Writable logged report ↔ Writable tree report := by simp only [Writable, opens]
  have kept : ∀ path ∈ log, logged.read path = .ok (Text.utf8Bytes text) := by
    rintro path ⟨rfl⟩
    exact read_writeTo complete
  cases ends with
  | stopped said =>
    refine ⟨fun completed => ?_, fun _ => ⟨rfl, complete⟩, fun path named _ => kept path named⟩
    cases completed
  | refused said failed =>
    have unable : ¬Writable tree report := fun able => not_writable failed (writable.mpr able)
    exact ⟨fun _ able => absurd able unable, fun _ => ⟨rfl, complete⟩,
      fun path named _ => kept path named⟩
  | @reported last said written =>
    have able : Writable tree report := writable.mp ((writable_iff _).mpr ⟨last, written⟩)
    refine ⟨fun _ _ => ⟨?_, ?_⟩, fun unable => absurd ⟨rfl, able⟩ unable,
      fun path named apart => ?_⟩
    · rintro rfl
      rfl
    · rintro path ⟨rfl⟩
      exact read_writeTo written
    · obtain ⟨place, leads⟩ := (writable_iff "").mpr ⟨made, created⟩ path named
      have elsewhere : ∀ other ∈ report, Apart logged path other := by
        simpa only [Apart, opens] using apart rfl
      exact (read_writeTo_of_apart written (opens.mpr leads) elsewhere).trans (kept path named)

/-- **Every run of `verify` is accounted for.** -/
theorem verify_accounts (timing : Nat → Clock × Nat) (wording : Wording) (tree : FileTree)
    (fixture : PathName) (report log : Option PathName) :
    Accounts wording tree fixture report log
      (verifyTree timing wording tree fixture report log) where
  order names paths same := ⟨Selected.perm same, Selected.perm same.symm⟩
  misused := verifyTree_misused timing wording
  exit := by
    rcases verifyTree_cases timing wording tree fixture report log with
      ⟨⟨fault, breaks⟩, -⟩ | ⟨made, paths, created, selected⟩
    · exact .inr (congrArg Result.exit breaks)
    · obtain ⟨_, _, _, _, -, -, -, ends⟩ := verifyTree_ends timing wording selected created
      exact ends.exit
  success := by
    rcases verifyTree_cases timing wording tree fixture report log with
      ⟨⟨fault, breaks⟩, never⟩ | ⟨made, paths, created, selected⟩
    · rw [breaks]
      refine iff_of_false nofun ?_
      rintro ⟨made, paths, created, selected, -⟩
      exact never made paths created selected
    · obtain ⟨reports, stopped, text, logged, verified, -, complete, ends⟩ :=
        verifyTree_ends timing wording selected created
      rw [ends.exit_eq_zero, verified.passes_iff, writable_writeTo complete,
        writable_writeTo created]
      constructor
      · exact fun passes => ⟨made, paths, created, selected, passes⟩
      · rintro ⟨_, _, createdAlso, selectedAlso, passes⟩
        cases created.symm.trans createdAlso
        rwa [selected.unique selectedAlso]
  outputs made paths created selected := by
    obtain ⟨reports, stopped, text, logged, verified, isLog, complete, ends⟩ :=
      verifyTree_ends timing wording selected created
    exact ⟨reports, stopped, text, verified, isLog, ends.leaves created complete⟩

end Account

/-! ### Reports over the log -/

/-- Reports begin with a bracket. -/
theorem head_reportsText (reports : List Report) :
    (reportsText reports).toList.head? = some '[' := by
  rw [reportsText, Json.pretty, String.toList_append, String.toList_ofList]
  cases reports <;> rfl

/-- Lines begin with a brace. -/
theorem head_numberedLines (number : Nat) {entries : List Entry} (nonempty : entries ≠ []) :
    (numberedLines number entries).toList.head? = some '\x7b' := by
  obtain ⟨entry, rest, rfl⟩ := List.exists_cons_of_ne_nil nonempty
  rw [numberedLines, Emitter.numbered, List.zipIdx_cons, List.map_cons, List.map_cons,
    String.join_cons, String.toList_append, String.toList_append, Entry.line, Json.compact,
    String.toList_ofList]
  rfl

theorem flatten_ne_nil {reports : List Report} {blocks : List (List Entry)}
    (nonempty : reports ≠ []) (tells : List.Forall₂ LogsReport reports blocks) :
    blocks.flatten ≠ [] := by
  cases tells with
  | nil => exact absurd rfl nonempty
  | cons first others =>
    obtain ⟨results, last, rfl, -, -⟩ := first
    simp

/-- **Reports that are written to the place of the log leave nothing of it.** -/
theorem log_overwritten {tree made : FileTree} {fixture path : PathName} {paths : List PathName}
    {reports : List Report} (timing : Nat → Clock × Nat) (wording : Wording)
    (created : writeTo tree (some path) "" = .ok made)
    (selected : Selected fixture (tree.listing fixture) paths) (nonempty : reports ≠ [])
    (verified : Verified made.read paths reports none) {text : String}
    (isLog : IsLog reports text) :
    (verifyTree timing wording tree fixture (some path) (some path)).tree.read path ≠
      .ok (Text.utf8Bytes text) := by
  obtain ⟨_, stopped, _, logged, verifiedAlso, -, complete, ends⟩ :=
    verifyTree_ends timing wording selected created
  obtain ⟨rfl, rfl⟩ := verified.unique verifiedAlso
  have able : Writable tree (some path) := (writable_iff "").mpr ⟨made, created⟩
  rw [((ends.leaves created complete).reported rfl able).2 path rfl]
  obtain ⟨blocks, tells, rfl⟩ := isLog
  intro same
  have same := congrArg Text.decodeUtf8 (Except.ok.inj same)
  rw [Text.decodeUtf8_utf8Bytes, Text.decodeUtf8_utf8Bytes] at same
  have head := congrArg List.head? (Except.ok.inj same)
  rw [head_reportsText, head_numberedLines 1 (flatten_ne_nil nonempty tells)] at head
  exact absurd head (by decide)

/-- A text of characters below 128, by their bytes. -/
def plainBytes (text : String) : List UInt8 := text.toList.map fun c => UInt8.ofNat c.toNat

/-- The text of a set without cases. -/
def emptySetText : String := "\x7b\"version\":\"1\",\"family\":\"beta\",\"cases\":[]\x7d"

/-- A tree with one file in it, a set without cases. -/
def loneSet : FileTree := ⟨[([plainBytes "f.json"], .file (plainBytes emptySetText))]⟩

/-- **The log need not hold what was verified**: the reports can be written over it. -/
theorem log_lost : ∃ made paths reports,
    writeTo loneSet (some (plainBytes "out.json")) "" = .ok made ∧
    Selected (plainBytes "f.json") (loneSet.listing (plainBytes "f.json")) paths ∧
      Verified made.read paths reports none ∧
      ∀ timing wording text, IsLog reports text →
        (verifyTree timing wording loneSet (plainBytes "f.json") (some (plainBytes "out.json"))
          (some (plainBytes "out.json"))).tree.read (plainBytes "out.json") ≠
            .ok (Text.utf8Bytes text) := by
  let set : FixtureSet := ⟨"1", "beta", []⟩
  let bytes := plainBytes emptySetText
  let out := plainBytes "out.json"
  let made := loneSet.put [out] (.file (Text.utf8Bytes ""))
  have created : writeTo loneSet (some out) "" = .ok made := by
    refine writeTo_some_eq_ok.mpr ⟨[out], ⟨⟨[out], ?_, ?_⟩, ?_⟩, rfl⟩ <;> decide +kernel
  have listed : loneSet.listing (plainBytes "f.json") = none := by decide +kernel
  have selected : Selected (plainBytes "f.json") (loneSet.listing (plainBytes "f.json"))
      [plainBytes "f.json"] := by
    rw [listed]
    exact .argument
  have holds : Holds (made.read (plainBytes "f.json")) bytes set := by
    refine ⟨emptySetText.toList, ?_, ?_, ?_⟩ <;> decide +kernel
  have verified : Verified made.read [plainBytes "f.json"] [set.verify bytes] none :=
    .next (verifyFile_eq_ok.mpr ⟨bytes, set, holds, rfl⟩) .done
  exact ⟨made, _, _, created, selected, verified, fun timing wording text =>
    log_overwritten timing wording created selected (List.cons_ne_nil _ _) verified⟩

end IncompleteBeta.CommandLine
