/-
**Diagnostics as records.**

In the mode `json` an incident is written as one object on a line of its own. Its strings may hold
anything, and its numbers may be no numbers at all.

* `Record`, `Record.formatBy`: what is read of such a line, with a reader of numbers;
* `written`: an argument as it is written, where only finite doubles have a number;
* `Record.of`: the record of an incident;
* **`reads_incidentRecord`**: what is read of an incident, by any reader of numbers;
* `report_output`: what a session writes of an incident;
* **`report_output_record`**: it is one line, and the record of the incident is read from it.
-/

import IncompleteBeta.Proofs.Diagnostics.Reports
import IncompleteBeta.Proofs.Json.NearestReading
import IncompleteBeta.Proofs.Json.OneLine
import IncompleteBeta.Proofs.Text.Utf8

namespace IncompleteBeta.Diagnostics

open Json
open Text (utf8Bytes utf8Bytes_append utf8Bytes_newline mem_of_mem_utf8Bytes)

/-! ### Records -/

/-- What a line of the mode `json` tells of an incident. -/
structure Record where
  timestamp : Nat
  level : String
  event : String
  symbol : String
  kind : String
  message : String
  inputs : List (Option Float)

/-- The members of a record that have been read. -/
structure RecordDraft where
  timestamp : Option Nat := none
  level : Option String := none
  event : Option String := none
  symbol : Option String := none
  kind : Option String := none
  message : Option String := none
  inputs : Option (List (Option Float)) := none

/-- How records are read, with a reader of numbers. -/
def Record.formatBy (number : Reader Float) : RecordFormat RecordDraft Record where
  title := "struct DiagnosticRecord"
  empty := {}
  members :=
    [.of "timestamp" (·.timestamp) (fun draft v => { draft with timestamp := some v })
        (readNatural "u64"),
      .of "level" (·.level) (fun draft v => { draft with level := some v }) readString,
      .of "event" (·.event) (fun draft v => { draft with event := some v }) readString,
      .of "symbol" (·.symbol) (fun draft v => { draft with symbol := some v }) readString,
      .of "kind" (·.kind) (fun draft v => { draft with kind := some v }) readString,
      .of "message" (·.message) (fun draft v => { draft with message := some v }) readString,
      .of "inputs" (·.inputs) (fun draft v => { draft with inputs := some v })
        (readList (readOptional number))]
  complete := fun draft => do
    return { timestamp := ← needed "timestamp" draft.timestamp
             level := ← needed "level" draft.level
             event := ← needed "event" draft.event
             symbol := ← needed "symbol" draft.symbol
             kind := ← needed "kind" draft.kind
             message := ← needed "message" draft.message
             inputs := ← needed "inputs" draft.inputs }

/-- An argument as it is written: what is not finite has no number. -/
def written (x : Float) : Option Float := if x.isFinite then some x else none

/-- **The record of an incident.** -/
def Record.of (clock : Clock) (symbol : String) (inputs : Inputs) (incident : Incident) :
    Record where
  timestamp := clock.milliseconds % 2 ^ 64
  level := "error"
  event := "boundary_failure"
  symbol
  kind := incident.kind.name
  message := incident.message
  inputs := [written inputs.a, written inputs.b, written inputs.arg]

/-- A record with every number as it is read, or the first fault in reading one. -/
def Record.rereadBy (meaning : Float → Except Fault Float) (record : Record) :
    Except Fault Record := do
  return { record with inputs := ← record.inputs.mapM (·.mapM meaning) }

/-! ### Reading what was written -/

section Reading

variable {meaning : Float → Except Fault Float}

/-- What the members of a record come to. -/
def Record.gathered (meaning : Float → Except Fault Float) (record : Record) :
    Except Fault RecordDraft :=
  Except.ok record.timestamp >>= fun timestamp => Except.ok record.level >>= fun level =>
    Except.ok record.event >>= fun event => Except.ok record.symbol >>= fun symbol =>
    Except.ok record.kind >>= fun kind => Except.ok record.message >>= fun message =>
    record.inputs.mapM (·.mapM meaning) >>= fun inputs =>
    .ok ⟨some timestamp, some level, some event, some symbol, some kind, some message, some inputs⟩

theorem Record.gathered_finish (number : Reader Float) (record : Record) :
    record.gathered meaning >>= (Record.formatBy number).finish = record.rereadBy meaning := by
  unfold Record.gathered Record.rereadBy
  simp only [bind_assoc]
  exact bind_congr fun inputs => rfl

/-- A reader that gets every number back gets the record back. -/
theorem Record.rereadBy_ok (record : Record) : record.rereadBy .ok = .ok record := by
  have same : record.inputs.mapM (·.mapM Except.ok) = (.ok record.inputs : Except Fault _) :=
    mapM_eq_ok_self.mpr fun x _ => Option.mapM_eq_ok_self.mpr fun _ _ => rfl
  rw [Record.rereadBy, same]
  rfl

variable {number : Reader Float} {spacing : Spacing}
  (reads : ∀ x : Float, x.isFinite = true → Reads number (floatText x) (meaning x))
include reads

/-- An argument is read as a number, or as none where it has none. -/
theorem reads_written (level : Nat) (x : Float) :
    Reads (readOptional number) (spacedText spacing level (.ofFloat x))
      ((written x).mapM meaning) := by
  unfold Json.ofFloat written
  split_ifs with finite
  · rw [Option.mapM_some]
    exact reads_some (writesNull_float finite) (reads x finite)
  · exact reads_none number

/-- **An incident is read with every argument as it is read from its own text.** -/
theorem reads_incidentRecord (level : Nat) (clock : Clock) (symbol : String) (inputs : Inputs)
    (incident : Incident) :
    Reads (Record.formatBy number).read
      (spacedText spacing level (incidentRecord clock symbol inputs incident))
      ((Record.of clock symbol inputs incident).rereadBy meaning) := by
  have word : (UInt64.ofNat clock.milliseconds).toNat < 2 ^ 64 := UInt64.toNat_lt _
  have arguments : (Record.of clock symbol inputs incident).inputs.mapM (·.mapM meaning) =
      [inputs.a, inputs.b, inputs.arg].mapM fun x => (written x).mapM meaning := rfl
  have each : ∀ x ∈ [inputs.a, inputs.b, inputs.arg], Reads (readOptional number)
      (spacedText spacing (level + 2) (.ofFloat x)) ((written x).mapM meaning) :=
    fun x _ => reads_written reads (level + 2) x
  rw [← Record.gathered_finish number, Record.gathered, arguments]
  refine reads_record ?_
  refine .of (⟨some ·, none, none, none, none, none, none⟩) rfl rfl rfl
    (reads_natural "u64" word) fun timestamp => ?_
  refine .of (⟨some timestamp, some ·, none, none, none, none, none⟩) rfl rfl rfl
    (reads_string _) fun level => ?_
  refine .of (⟨some timestamp, some level, some ·, none, none, none, none⟩) rfl rfl rfl
    (reads_string _) fun event => ?_
  refine .of (⟨some timestamp, some level, some event, some ·, none, none, none⟩) rfl rfl rfl
    (reads_string symbol) fun symbol => ?_
  refine .of (⟨some timestamp, some level, some event, some symbol, some ·, none, none⟩)
    rfl rfl rfl (reads_string _) fun kind => ?_
  refine .of (⟨some timestamp, some level, some event, some symbol, some kind, some ·, none⟩)
    rfl rfl rfl (reads_string _) fun message => ?_
  exact .of
    (⟨some timestamp, some level, some event, some symbol, some kind, some message, some ·⟩)
    rfl rfl rfl (reads_list each) fun inputs => .nil _

end Reading

/-! ### Lines -/

section Lines

variable (clock : Clock) (symbol : String) (inputs : Inputs) (incident : Incident)

/-- **The record of an incident is read from its line.** -/
theorem whole_jsonLine : whole (Record.formatBy readNearest).read
    (jsonLine clock symbol inputs incident) = .ok (.of clock symbol inputs incident) := by
  rw [jsonLine, compact, compactText_eq 0, ← Record.rereadBy_ok]
  exact (reads_incidentRecord (fun _ => reads_nearest) 0 clock symbol inputs incident).whole

/-- The line of an incident is the text of an object. -/
theorem head?_jsonLine : (jsonLine clock symbol inputs incident).toList.head? = some '\x7b' := by
  rw [jsonLine, compact, String.toList_ofList, compactText_eq 0, incidentRecord,
    spacedText_object]
  rfl

/-- No byte of the line of an incident ends a line. -/
theorem newline_not_mem_utf8Bytes : 10 ∉ utf8Bytes (jsonLine clock symbol inputs incident) :=
  fun inside => newline_not_mem_compact _ (mem_of_mem_utf8Bytes (by decide) inside)

end Lines

/-! ### Sessions -/

section Sessions

variable {Hook : Type} {session : Session Hook}

/-- In the mode `json` and without a hook an incident is reported by its line. -/
theorem report_output (unhooked : session.hook = none) (json : session.resolve.1 = .json)
    (clock : Clock) (symbol : String) (inputs : Inputs) (incident : Incident) :
    (session.report clock symbol inputs incident).1 =
      [.output (jsonLine clock symbol inputs incident ++ "\n")] := by
  have sends := session.sends_of_report clock symbol inputs incident
  rw [unhooked, json] at sends
  generalize (session.report clock symbol inputs incident).1 = sent at sends ⊢
  cases sends
  rfl

/-- **In the mode `json` and without a hook every incident is written as one record on a line of its
own**, by the operation that raises it. Its last byte ends the line and no other byte does; the rest
is an object from which a reader that rounds numbers to nearest reads the symbol, the kind, every
character of the message, and the arguments bit for bit, but for those that are not finite. -/
theorem report_output_record {α : Type} (unhooked : session.hook = none)
    (json : session.resolve.1 = .json) (clock : Clock) (symbol : String) (inputs : Inputs)
    (incident : Incident) :
    ∃ line : String,
      (session.report clock symbol inputs incident).1 = [.output (line ++ "\n")] ∧
      (∀ operation : Operation Hook α, Raises operation symbol inputs incident →
        (session.step clock operation).2.1 = [.output (line ++ "\n")]) ∧
      utf8Bytes (line ++ "\n") = utf8Bytes line ++ [10] ∧ 10 ∉ utf8Bytes line ∧
      line.toList.head? = some '\x7b' ∧
      whole (Record.formatBy readNearest).read line =
        .ok { timestamp := clock.milliseconds % 2 ^ 64
              level := "error"
              event := "boundary_failure"
              symbol
              kind := incident.kind.name
              message := incident.message
              inputs := [written inputs.a, written inputs.b, written inputs.arg] } := by
  have reported := report_output unhooked json clock symbol inputs incident
  refine ⟨jsonLine clock symbol inputs incident, reported, fun operation raises => ?_, ?_,
    newline_not_mem_utf8Bytes clock symbol inputs incident,
    head?_jsonLine clock symbol inputs incident, whole_jsonLine clock symbol inputs incident⟩
  · rw [Session.step_of_raises raises, reported]
  · rw [utf8Bytes_append, utf8Bytes_newline]

/-- An evaluation that broke off with a quote, a backslash and ends of lines, on a negative zero,
the least double and no number. -/
theorem report_output_broken :
    let session : Session Unit := .fresh (some "json")
    let inputs : Inputs := ⟨-0.0, 5e-324, Float.nan⟩
    let broken : Operation Unit Unit :=
      .guard "ibeta" inputs (.panicked (.owned "\"\\\n\x00\u2028"))
    ∃ line : String, (session.step ⟨0, 0⟩ broken).2.1 = [.output (line ++ "\n")] ∧
      10 ∉ utf8Bytes line ∧
      whole (Record.formatBy readNearest).read line =
        .ok ⟨0, "error", "boundary_failure", "ibeta", "panic",
          "ibeta: evaluator panicked: \"\\\n\x00\u2028", [some (-0.0), some 5e-324, none]⟩ := by
  intro session inputs broken
  have raises : Raises broken "ibeta" inputs (.panic "ibeta" "\"\\\n\x00\u2028") :=
    .owned "ibeta" inputs _
  obtain ⟨line, -, sent, -, unbroken, -, read⟩ :=
    report_output_record (by rfl : session.hook = none) (by decide) ⟨0, 0⟩ "ibeta" inputs
      (.panic "ibeta" "\"\\\n\x00\u2028")
  refine ⟨line, sent broken raises, unbroken, read.trans ?_⟩
  have arguments : [written inputs.a, written inputs.b, written inputs.arg] =
      [some (-0.0), some 5e-324, none] := by decide +kernel
  rw [arguments]
  rfl

end Sessions

end IncompleteBeta.Diagnostics
