/-
**Reports read back from their own text.**

A report is written with the shortest digits of its errors, and an absent error is not written at
all. Everything else comes back as it was; an error comes back as the reader makes it of its digits.

* `Report.Held`: the reports that can be held, with finite errors;
* `Report.written`: the report without the errors that are not finite, which are written as `null`;
* `Report.rereadBy`, `Report.reread`: the report with every error as a reader, or the library's own
  reader, makes it of its text;
* `Report.outline`: the report but for the digits of its errors;
* **`reads_written_report`**, `reads_report`: what is read of a report, by any reader of numbers;
* `eq_of_compact_eq`: reports with one text are one report;
* `held_of_ofJson`: reports that are read can be held;
* **`reports_round_trip`**: when a report and its text come back.
-/

import IncompleteBeta.CommandLine.Run
import IncompleteBeta.Proofs.Json.Accepted
import IncompleteBeta.Proofs.Json.NearestReading
import IncompleteBeta.Proofs.Json.Records

namespace IncompleteBeta

open CommandLine (Verification)
open Json

/-! ### The errors of a report -/

/-- The errors of a report, in the order in which they are written. -/
def Report.numbers (report : Report) : List Float :=
  report.cases.flatMap fun result => result.error.toList

/-- **The reports that can be held**: their counts fit a word, and their errors are finite. -/
structure Report.Held (report : Report) : Prop where
  total : report.total < 2 ^ 64
  passed : report.passed < 2 ^ 64
  failed : report.failed < 2 ^ 64
  finite : ∀ x ∈ report.numbers, x.isFinite = true

/-- The reports whose counts fit a word. -/
structure Report.Fits (report : Report) : Prop where
  total : report.total < 2 ^ 64
  passed : report.passed < 2 ^ 64
  failed : report.failed < 2 ^ 64

/-- A result as it is written: an error that is not finite has no number. -/
def CaseResult.written (result : CaseResult) : CaseResult :=
  { result with error := result.error.filter Float.isFinite }

/-- A report as it is written. -/
def Report.written (report : Report) : Report :=
  { report with cases := report.cases.map CaseResult.written }

/-- A result with its error as it is read, or the fault in reading it. -/
def CaseResult.rereadBy (meaning : Float → Except Fault Float) (result : CaseResult) :
    Except Fault CaseResult := do
  return { result with error := ← result.error.mapM meaning }

/-- A report with every error as it is read, or the first fault in reading one. -/
def Report.rereadBy (meaning : Float → Except Fault Float) (report : Report) :
    Except Fault Report := do
  return { report with cases := ← report.cases.mapM (CaseResult.rereadBy meaning) }

/-- A report with every error as the library reads it from its own text. -/
def Report.reread : Report → Except Fault Report := Report.rereadBy Json.reread

/-- A result but for the digits of its error. -/
def CaseResult.outline (result : CaseResult) : CaseResult :=
  { result with error := result.error.map fun _ => 0.0 }

/-- A report but for the digits of its errors. -/
def Report.outline (report : Report) : Report :=
  { report with cases := report.cases.map CaseResult.outline }

theorem Report.Held.fits {report : Report} (held : report.Held) : report.Fits :=
  ⟨held.total, held.passed, held.failed⟩

/-- A report with finite errors is written as it is. -/
theorem Report.Held.written_eq {report : Report} (held : report.Held) :
    report.written = report := by
  have same : ∀ result ∈ report.cases, result.written = result := by
    intro result inside
    have finite : ∀ x ∈ result.error, x.isFinite = true := fun x some =>
      held.finite x (List.mem_flatMap.mpr ⟨result, inside, Option.mem_toList.mpr some⟩)
    obtain ⟨name, function, passed, expected, actual, error⟩ := result
    cases error with
    | none => rfl
    | some x => rw [CaseResult.written, Option.filter_some_pos (finite x rfl)]
  rw [Report.written, List.map_congr_left same, List.map_id']

/-! ### Reading what was written -/

/-- The format of results with another reader of numbers. -/
def CaseResult.formatBy (number : Reader Float) : RecordFormat CaseResultDraft CaseResult :=
  { CaseResult.format with
    members := CaseResult.format.members.dropLast ++
      [.trailing <| .of "error" (·.error) (fun draft v => { draft with error := some v })
        (readOptional number)] }

/-- The format of reports with another reader of numbers. -/
def Report.formatBy (number : Reader Float) : RecordFormat ReportDraft Report :=
  { Report.format with
    members := Report.format.members.dropLast ++
      [.of "cases" (·.cases) (fun draft v => { draft with cases := some v })
        (readList (CaseResult.formatBy number).read)] }

/-- With the library's own reader of numbers it is the format of reports. -/
theorem formatBy_readFloat : Report.formatBy readFloat = Report.format := rfl

section Reading

variable {meaning : Float → Except Fault Float}

/-- What the members of a result come to, if its error comes to what is read. -/
def CaseResult.gathered (read : Except Fault (Option (Option Float))) (result : CaseResult) :
    Except Fault CaseResultDraft :=
  Except.ok result.name >>= fun name => Except.ok result.function >>= fun function =>
    Except.ok result.passed >>= fun passed => Except.ok result.expected >>= fun expected =>
    Except.ok result.actual >>= fun actual => read >>= fun error =>
    .ok ⟨some name, some function, some passed, some expected, some actual, error⟩

theorem CaseResult.gathered_finish (number : Reader Float)
    (read : Except Fault (Option (Option Float))) (result : CaseResult) :
    result.gathered read >>= (CaseResult.formatBy number).finish =
      read >>= fun error => .ok { result with error := error.join } := by
  simp only [CaseResult.gathered, bind_assoc, ok_bind]
  exact bind_congr fun error => rfl

/-- What the members of a report come to. -/
def Report.gathered (meaning : Float → Except Fault Float) (report : Report) :
    Except Fault ReportDraft :=
  Except.ok report.family >>= fun family => Except.ok report.version >>= fun version =>
    Except.ok report.digest >>= fun digest => Except.ok report.total >>= fun total =>
    Except.ok report.passed >>= fun passed => Except.ok report.failed >>= fun failed =>
    report.cases.mapM (CaseResult.rereadBy meaning) >>= fun cases =>
    .ok ⟨some family, some version, some digest, some total, some passed, some failed, some cases⟩

theorem Report.gathered_finish (number : Reader Float) (report : Report) :
    report.gathered meaning >>= (Report.formatBy number).finish = report.rereadBy meaning := by
  unfold Report.gathered Report.rereadBy
  simp only [bind_assoc]
  exact bind_congr fun cases => rfl

variable {number : Reader Float} {spacing : Spacing}
  (reads : ∀ x : Float, x.isFinite = true → Reads number (floatText x) (meaning x))
include reads

omit reads in
/-- What comes of its error decides what a result is read as. -/
theorem reads_result_as (level : Nat) (result : CaseResult)
    (read : Except Fault (Option (Option Float)))
    (gathers : ∀ name function passed expected actual,
      Gathers (CaseResult.formatBy number) spacing (level + 1)
        ⟨some name, some function, some passed, some expected, some actual, none⟩
        (optionalMember "error" (result.error.map .float))
        (read >>= fun error => .ok
          ⟨some name, some function, some passed, some expected, some actual, error⟩)) :
    Reads (CaseResult.formatBy number).read (spacedText spacing level result.toValue)
      (read >>= fun error => .ok { result with error := error.join }) := by
  rw [CaseResult.toValue, ← CaseResult.gathered_finish number]
  refine reads_record ?_
  refine .of (⟨some ·, none, none, none, none, none⟩) rfl rfl rfl (reads_string result.name)
    fun name => ?_
  refine .of (⟨some name, some ·, none, none, none, none⟩) rfl rfl rfl
    (reads_string result.function) fun function => ?_
  refine .of (⟨some name, some function, some ·, none, none, none⟩) rfl rfl rfl
    (reads_boolean result.passed) fun passed => ?_
  refine .of (⟨some name, some function, some passed, some ·, none, none⟩) rfl rfl rfl
    (reads_string result.expected) fun expected => ?_
  refine .of (⟨some name, some function, some passed, some expected, some ·, none⟩) rfl rfl rfl
    (reads_string result.actual) fun actual => ?_
  exact gathers name function passed expected actual

/-- An error is read as a number, or as none where it has none. -/
theorem reads_error (level : Nat) (x : Float) :
    Reads (readOptional number) (spacedText spacing level (.float x))
      (((some x).filter Float.isFinite).mapM meaning) := by
  by_cases finite : x.isFinite = true
  · rw [Option.filter_some_pos finite, Option.mapM_some]
    exact reads_some (writesNull_float finite) (reads x finite)
  · have null : spacedText spacing level (.float x) = ['n', 'u', 'l', 'l'] := if_neg finite
    rw [Option.filter_some_neg (Bool.eq_false_iff.mpr finite), null]
    exact reads_none number

/-- A result is read with its error as it is read, or with none where that has no number. -/
theorem reads_result (level : Nat) (result : CaseResult) :
    Reads (CaseResult.formatBy number).read (spacedText spacing level result.toValue)
      (result.written.rereadBy meaning) := by
  obtain ⟨name, function, passed, expected, actual, error⟩ := result
  cases error with
  | none => exact reads_result_as level _ (.ok none) fun _ _ _ _ _ => .nil _
  | some x =>
    have error : Reads (readOptional number) (spacedText spacing (level + 1) (.float x))
        (((some x).filter Float.isFinite).mapM meaning) := reads_error reads (level + 1) x
    unfold CaseResult.rereadBy CaseResult.written
    generalize ((some x).filter Float.isFinite).mapM meaning = step at error ⊢
    have gathers (name function : String) (passed : Bool) (expected actual : String) :
        Gathers (CaseResult.formatBy number) spacing (level + 1)
          ⟨some name, some function, some passed, some expected, some actual, none⟩
          [("error", .float x)] (step >>= fun error => .ok
            ⟨some name, some function, some passed, some expected, some actual, some error⟩) :=
      .of (⟨some name, some function, some passed, some expected, some actual, some ·⟩)
        rfl rfl rfl error fun error => .nil _
    cases step with
    | error fault => exact reads_result_as level _ (.error fault) gathers
    | ok found => exact reads_result_as level _ (.ok (some found)) gathers

/-- **A report is read with every error that has a number as it is read from its own text.** -/
theorem reads_written_report (level : Nat) {report : Report} (fits : report.Fits) :
    Reads (Report.formatBy number).read (spacedText spacing level report.toValue)
      (report.written.rereadBy meaning) := by
  rw [← Report.gathered_finish number]
  refine reads_record ?_
  refine .of (⟨some ·, none, none, none, none, none, none⟩) rfl rfl rfl
    (reads_string report.family) fun family => ?_
  refine .of (⟨some family, some ·, none, none, none, none, none⟩) rfl rfl rfl
    (reads_string report.version) fun version => ?_
  refine .of (⟨some family, some version, some ·, none, none, none, none⟩) rfl rfl rfl
    (reads_string report.digest) fun digest => ?_
  refine .of (⟨some family, some version, some digest, some ·, none, none, none⟩) rfl rfl rfl
    (reads_natural "usize" fits.total) fun total => ?_
  refine .of (⟨some family, some version, some digest, some total, some ·, none, none⟩) rfl rfl rfl
    (reads_natural "usize" fits.passed) fun passed => ?_
  refine .of (⟨some family, some version, some digest, some total, some passed, some ·, none⟩)
    rfl rfl rfl (reads_natural "usize" fits.failed) fun failed => ?_
  have results : Reads (readList (CaseResult.formatBy number).read)
      (spacedText spacing (level + 1) (.array (report.cases.map CaseResult.toValue)))
      (report.written.cases.mapM (CaseResult.rereadBy meaning)) := by
    rw [Report.written, List.mapM_map]
    exact reads_list fun result _ => reads_result reads _ result
  exact .of
    (⟨some family, some version, some digest, some total, some passed, some failed, some ·⟩)
    rfl rfl rfl results fun cases => .nil _

/-- **A report with finite errors is read with every error as it is read from its own text.** -/
theorem reads_report (level : Nat) {report : Report} (held : report.Held) :
    Reads (Report.formatBy number).read (spacedText spacing level report.toValue)
      (report.rereadBy meaning) := by
  have same : report.written.rereadBy meaning = report.rereadBy meaning := by rw [held.written_eq]
  rw [← same]
  exact reads_written_report reads level held.fits

end Reading

/-! ### Texts of reports -/

section Texts

variable {number : Reader Float} {meaning : Float → Except Fault Float} {report : Report}

/-- **A report is read alike from its text on one line and on many.** -/
theorem whole_written
    (reads : ∀ x : Float, x.isFinite = true → Reads number (floatText x) (meaning x))
    (fits : report.Fits) :
    whole (Report.formatBy number).read report.toValue.compact = report.written.rereadBy meaning ∧
      whole (Report.formatBy number).read report.toValue.pretty =
        report.written.rereadBy meaning := by
  rw [Json.compact, Json.pretty, compactText_eq 0, prettyText_eq]
  exact ⟨(reads_written_report reads 0 fits).whole, (reads_written_report reads 0 fits).whole⟩

theorem whole_report
    (reads : ∀ x : Float, x.isFinite = true → Reads number (floatText x) (meaning x))
    (held : report.Held) :
    whole (Report.formatBy number).read report.toValue.compact = report.rereadBy meaning ∧
      whole (Report.formatBy number).read report.toValue.pretty = report.rereadBy meaning := by
  have read := whole_written reads held.fits
  rwa [held.written_eq] at read

theorem ofJson_compact (held : report.Held) :
    Report.ofJson report.toValue.compact = report.reread := by
  rw [Report.ofJson, ← formatBy_readFloat]
  exact (whole_report (fun _ => reads_float) held).1

theorem ofJson_pretty (held : report.Held) :
    Report.ofJson report.toValue.pretty = report.reread := by
  rw [Report.ofJson, ← formatBy_readFloat]
  exact (whole_report (fun _ => reads_float) held).2

theorem CaseResult.rereadBy_eq_ok {result : CaseResult} :
    result.rereadBy meaning = .ok result ↔ ∀ x ∈ result.error.toList, meaning x = .ok x := by
  rw [← Option.mapM_eq_ok_self]
  exact bind_put_eq_ok (fun error => { result with error }) fun _ _ same =>
    congrArg CaseResult.error same

theorem Report.rereadBy_eq_ok :
    report.rereadBy meaning = .ok report ↔ ∀ x ∈ report.numbers, meaning x = .ok x := by
  have same : report.rereadBy meaning = .ok report ↔
      report.cases.mapM (CaseResult.rereadBy meaning) = .ok report.cases :=
    bind_put_eq_ok (fun cases => { report with cases }) fun _ _ same =>
      congrArg Report.cases same
  rw [same, mapM_eq_ok_self, Report.numbers, List.forall_mem_flatMap]
  exact forall₂_congr fun result _ => CaseResult.rereadBy_eq_ok

/-- **A reader that rounds to nearest gets every report back.** -/
theorem rereadBy_ok (report : Report) : report.rereadBy .ok = .ok report :=
  Report.rereadBy_eq_ok.mpr fun _ _ => rfl

theorem whole_nearest (held : report.Held) :
    whole (Report.formatBy readNearest).read report.toValue.compact = .ok report ∧
      whole (Report.formatBy readNearest).read report.toValue.pretty = .ok report := by
  rw [← rereadBy_ok report]
  exact whole_report (fun _ => reads_nearest) held

/-- **Reports with one text are one report.** -/
theorem eq_of_compact_eq {later : Report} (held : report.Held) (otherHeld : later.Held)
    (same : later.toValue.compact = report.toValue.compact) : later = report := by
  have read := (whole_nearest otherHeld).1
  rw [same, (whole_nearest held).1] at read
  exact (Except.ok.inj read).symm

theorem reread_iff_readsBack (held : report.Held) :
    report.reread = .ok report ↔ ∀ x ∈ report.numbers, ReadsBack x := by
  rw [Report.reread, Report.rereadBy_eq_ok]
  exact forall₂_congr fun x inside => (readsBack_iff (held.finite x inside)).symm

/-! ### Reports as they are read -/

/-- A traversal changes nothing that none of its steps changes. -/
theorem map_eq_of_mapM {ε α β : Type} {step : α → Except ε α} {view : α → β}
    (keeps : ∀ value later, step value = .ok later → view later = view value)
    {values laters : List α} (traversed : values.mapM step = .ok laters) :
    laters.map view = values.map view := by
  induction values generalizing laters with
  | nil =>
    cases traversed
    rfl
  | cons value values ih =>
    rw [List.mapM_cons] at traversed
    obtain ⟨head, first, traversed⟩ := bind_eq_ok.mp traversed
    obtain ⟨tail, others, same⟩ := bind_eq_ok.mp traversed
    cases same
    rw [List.map_cons, List.map_cons, keeps value head first, ih others]

theorem outline_of_rereadBy {result later : CaseResult}
    (read : result.rereadBy meaning = .ok later) : later.outline = result.outline := by
  obtain ⟨name, function, passed, expected, actual, error⟩ := result
  obtain ⟨readError, reads, same⟩ := bind_eq_ok.mp read
  cases same
  cases error with
  | none =>
    cases reads
    rfl
  | some x =>
    rw [Option.mapM_some] at reads
    obtain ⟨y, _, same⟩ := map_eq_ok.mp reads
    cases same
    rfl

/-- **A report that is read is the same but for the digits of its errors**, and has its verdict and
its failures. -/
theorem outline_of_reread {later : Report} (read : report.rereadBy meaning = .ok later) :
    later.outline = report.outline := by
  obtain ⟨cases, reads, same⟩ := bind_eq_ok.mp read
  cases same
  unfold Report.outline
  rw [map_eq_of_mapM (fun _ _ => outline_of_rereadBy) reads]

theorem allPassed_outline (report : Report) : report.outline.allPassed = report.allPassed := rfl

theorem failures_outline (report : Report) :
    report.outline.failures = report.failures.map CaseResult.outline := by
  unfold Report.failures Report.outline
  rw [List.filter_map]
  rfl

theorem names_failures_outline (report : Report) :
    report.outline.failures.map (·.name) = report.failures.map (·.name) := by
  rw [failures_outline, List.map_map]
  rfl

end Texts

/-! ### Accepted texts -/

section Accepted

/-- **A result that is read has no error or a finite one.** -/
theorem yields_result :
    Yields CaseResult.format.read fun result => ∀ x ∈ result.error, x.isFinite = true := by
  refine yields_record (I := fun draft => ∀ x ∈ draft.error.join, x.isFinite = true)
    forall_mem_none ?_ ?_
  · simp only [CaseResult.format, List.forall_mem_cons, List.not_mem_nil, false_imp_iff,
      implies_true, and_true]
    refine ⟨?_, ?_, ?_, ?_, ?_, ?_⟩ <;> intro draft holds
    · exact yields_of (yields_any _) fun _ _ => holds
    · exact yields_of (yields_any _) fun _ _ => holds
    · exact yields_of (yields_any _) fun _ _ => holds
    · exact yields_of (yields_any _) fun _ _ => holds
    · exact yields_of (yields_any _) fun _ _ => holds
    · exact yields_trailing (yields_of (yields_optional yields_float) fun _ finite => finite)
  · intro draft result holds completed
    simp only [CaseResult.format, bind_eq_ok] at completed
    obtain ⟨name, _, function, _, passed, _, expected, _, actual, _, ⟨⟩⟩ := completed
    exact holds

/-- Counts that fit a word and finite errors in the members of a report. -/
structure ReportDraft.Held (draft : ReportDraft) : Prop where
  total : ∀ n ∈ draft.total, n < 2 ^ 64
  passed : ∀ n ∈ draft.passed, n < 2 ^ 64
  failed : ∀ n ∈ draft.failed, n < 2 ^ 64
  cases : ∀ cases ∈ draft.cases, ∀ result ∈ cases, ∀ x ∈ result.error, x.isFinite = true

theorem yields_report : Yields Report.format.read Report.Held := by
  refine yields_record (I := ReportDraft.Held)
    ⟨forall_mem_none, forall_mem_none, forall_mem_none, forall_mem_none⟩ ?_ ?_
  · simp only [Report.format, List.forall_mem_cons, List.not_mem_nil, false_imp_iff, implies_true,
      and_true]
    refine ⟨?_, ?_, ?_, ?_, ?_, ?_, ?_⟩ <;> intro draft holds
    · exact yields_of (yields_any _) fun _ _ => { holds with }
    · exact yields_of (yields_any _) fun _ _ => { holds with }
    · exact yields_of (yields_any _) fun _ _ => { holds with }
    · exact yields_of (yields_natural _) fun _ word => { holds with total := forall_mem_some word }
    · exact yields_of (yields_natural _) fun _ word => { holds with passed := forall_mem_some word }
    · exact yields_of (yields_natural _) fun _ word => { holds with failed := forall_mem_some word }
    · exact yields_of (yields_list yields_result) fun _ finite =>
        { holds with cases := forall_mem_some finite }
  · intro draft report holds completed
    simp only [Report.format, bind_eq_ok] at completed
    obtain ⟨family, _, version, _, digest, _, total, held_total, passed, held_passed, failed,
      held_failed, cases, held_cases, ⟨⟩⟩ := completed
    refine ⟨holds.total total (mem_of_needed held_total),
      holds.passed passed (mem_of_needed held_passed),
      holds.failed failed (mem_of_needed held_failed), ?_⟩
    rw [Report.numbers, List.forall_mem_flatMap]
    intro result inside x some
    exact holds.cases cases (mem_of_needed held_cases) result inside x (Option.mem_toList.mp some)

/-- **Reports that are read can be held.** -/
theorem held_of_ofJson {text : String} {report : Report} (read : Report.ofJson text = .ok report) :
    report.Held :=
  yields_report.whole read

end Accepted

/-! ### Round trips -/

section RoundTrips

variable {report : Report}

/-- **A report that was read is written again as it was exactly if each of its errors is read as it
is written.** Another double would have other digits. -/
theorem written_again_iff (held : report.Held) :
    (Report.ofJson report.toValue.compact).map (·.toValue.compact) = .ok report.toValue.compact ↔
      ∀ x ∈ report.numbers, ReadsBack x := by
  rw [← reread_iff_readsBack held, map_eq_ok]
  constructor
  · rintro ⟨later, read, same⟩
    have later_eq := eq_of_compact_eq held (held_of_ofJson read) same
    rw [later_eq, ofJson_compact held] at read
    exact read
  · intro same
    exact ⟨report, by rw [ofJson_compact held, same], rfl⟩

/-- The reports of a run as they are written: a list of them, ended by a newline. -/
theorem whole_reportText {run : Verification} (held : ∀ report ∈ run.reports, report.Held) :
    whole (readList Report.format.read) run.reportText = run.reports.mapM Report.reread := by
  rw [Verification.reportText, Json.pretty, prettyText_eq]
  exact (reads_list fun report inside =>
    reads_report (fun _ => reads_float) 1 (held report inside)).line

/-- **Reports come back from their own text**, on one line, on many, or in the list of a run: all of
a report, its verdict and its failures included, but for the digits of its errors. These come back
as the library reads them, the same exactly if each is read as it is written, and in particular if
the digits of each are brief; a reader that rounds to nearest gets every report back. -/
theorem reports_round_trip :
    (∀ report : Report, report.Held →
      Report.ofJson report.toValue.compact = report.reread ∧
      Report.ofJson report.toValue.pretty = report.reread ∧
      (∀ later, report.reread = .ok later → later.outline = report.outline ∧
        later.allPassed = report.allPassed ∧
        later.failures.map (·.name) = report.failures.map (·.name)) ∧
      (report.reread = .ok report ↔ ∀ x ∈ report.numbers, ReadsBack x) ∧
      ((Report.ofJson report.toValue.compact).map (·.toValue.compact) =
        .ok report.toValue.compact ↔ ∀ x ∈ report.numbers, ReadsBack x) ∧
      ((∀ x ∈ report.numbers, Brief x) → report.reread = .ok report) ∧
      whole (Report.formatBy readNearest).read report.toValue.compact = .ok report ∧
      whole (Report.formatBy readNearest).read report.toValue.pretty = .ok report) ∧
    ∀ run : Verification, (∀ report ∈ run.reports, report.Held) →
      whole (readList Report.format.read) run.reportText = run.reports.mapM Report.reread := by
  refine ⟨fun report held => ?_, fun run => whole_reportText⟩
  refine ⟨ofJson_compact held, ofJson_pretty held, fun later read => ?_, reread_iff_readsBack held,
    written_again_iff held, fun brief => ?_, whole_nearest held⟩
  · have same := outline_of_reread read
    refine ⟨same, ?_, ?_⟩
    · rw [← allPassed_outline, same, allPassed_outline]
    · rw [← names_failures_outline, same, names_failures_outline]
  · exact (reread_iff_readsBack held).mpr fun x inside =>
      readsBack_of_brief (held.finite x inside) (brief x inside)

/-- Two results with and without an error, of which one is a negative zero, and counts that do not
belong to them. -/
def unbalancedReport : Report :=
  ⟨"be\ta", "\u2028", "", 2 ^ 64 - 1, 0, 3,
    [⟨"a", "ibeta", true, "1e0", "1e0", some 1.25e-16⟩, ⟨"b", "", false, "\"", "\n", none⟩,
      ⟨"c", "ibeta", true, "0e0", "0e0", some (-0.0)⟩]⟩

theorem unbalanced_round_trip :
    Report.ofJson unbalancedReport.toValue.compact = .ok unbalancedReport := by
  have numbers : unbalancedReport.numbers = [1.25e-16, -0.0] := rfl
  have held : unbalancedReport.Held :=
    ⟨by decide, by decide, by decide, by rw [numbers]; decide +kernel⟩
  have brief : ∀ x ∈ unbalancedReport.numbers, Brief x := by
    rw [numbers, List.forall_mem_cons, List.forall_mem_singleton]
    exact ⟨⟨by decide +kernel, by decide +kernel, by decide +kernel⟩,
      ⟨by decide +kernel, by decide +kernel, by decide +kernel⟩⟩
  obtain ⟨read, _, _, _, _, reads, _⟩ := reports_round_trip.1 unbalancedReport held
  rw [read, reads brief]

/-- **A report with finite errors need not come back from its own text**, nor be written again as it
was: `2e-32` is read as another double. -/
theorem report_read_otherwise : ∃ report : Report, report.Held ∧
    Report.ofJson report.toValue.compact ≠ .ok report ∧
    (Report.ofJson report.toValue.compact).map (·.toValue.compact) ≠
      .ok report.toValue.compact := by
  let report : Report :=
    ⟨"beta", "1", "", 1, 1, 0, [⟨"small", "ibeta", true, "0", "0", some 2e-32⟩]⟩
  have numbers : report.numbers = [2e-32] := rfl
  have held : report.Held := ⟨by decide, by decide, by decide, by rw [numbers]; decide +kernel⟩
  have otherwise : ¬∀ x ∈ report.numbers, ReadsBack x := by
    rw [numbers, List.forall_mem_singleton, readsBack_iff (by decide +kernel)]
    decide +kernel
  refine ⟨report, held, ?_, mt (written_again_iff held).mp otherwise⟩
  rw [ofJson_compact held]
  exact mt (reread_iff_readsBack held).mp otherwise

end RoundTrips

end IncompleteBeta
