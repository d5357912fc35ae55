/-
**The text that an emitter writes.**

* `outcomes`, `emitted`: which entry each operation writes, by the number that is next at it;
* `run_eq`: the text of each operation is the line of its entry with its end, or nothing;
* `run_write`: entries without ids are written under consecutive numbers;
* `splitOn_written`: every line ends at the only end of line in it;
* `close_pour`: over any sink the same bytes arrive;
* **`stream_read_back`**: the lines of a run are read as the entries that it emitted.
-/

import IncompleteBeta.Log.Sink
import IncompleteBeta.Proofs.Files.Tree
import IncompleteBeta.Proofs.Log.Entry
import IncompleteBeta.Proofs.Text.Utf8
import Mathlib.Data.List.ReduceOption

namespace IncompleteBeta.Log

open Files Json Text

/-! ### The entries of a run -/

namespace Emitter

/-- Whether an operation is given the next number. -/
def Operation.numbered : Operation → Bool
  | .emit _ _ _ => true
  | .write entry => entry.traceId.isEmpty
  | .flush => false

/-- The entry that an operation writes, if it writes one, where `number` is the next number. -/
def Operation.entry? (runId : String) (number : Nat) : Operation → Option Entry
  | .emit clock level event => some (.new clock (traceId runId number) level event)
  | .write entry =>
    some (if entry.traceId.isEmpty then { entry with traceId := traceId runId number } else entry)
  | .flush => none

/-- What each operation writes, where `number` is the next number at the first of them. -/
def outcomes (runId : String) : (number : Nat) → List Operation → List (Option Entry)
  | _, [] => []
  | number, operation :: rest =>
    operation.entry? runId number :: outcomes runId (number + operation.numbered.toNat) rest

/-- The entries that the operations of a run write, in their order. -/
def emitted (runId : String) (operations : List Operation) : List Entry :=
  (outcomes runId 1 operations).reduceOption

/-- The text that the operations of a run write. -/
def written (runId : String) (operations : List Operation) : String :=
  String.join (run { runId } operations).1

/-- The line of an entry with its end. -/
def ended (outcome : Option Entry) : String := outcome.elim "" fun entry => entry.line ++ "\n"

/-- One operation writes the line of its entry, and counts the number that it was given. -/
theorem step_eq (emitter : Emitter) (operation : Operation) :
    emitter.step operation =
      (ended (operation.entry? emitter.runId (emitter.sequence + 1)),
        { emitter with sequence := emitter.sequence + operation.numbered.toNat }) := by
  cases operation with
  | emit clock level event => rfl
  | flush => rfl
  | write entry =>
    cases empty : entry.traceId.isEmpty <;>
      simp [step, write, next, Operation.entry?, Operation.numbered, ended, empty]

/-- **Each operation of a run writes the line of its entry with its end, or nothing.** -/
theorem run_eq (emitter : Emitter) (operations : List Operation) :
    (emitter.run operations).1 =
      (outcomes emitter.runId (emitter.sequence + 1) operations).map ended := by
  induction operations generalizing emitter with
  | nil => rfl
  | cons operation rest ih =>
    rw [run, step_eq]
    dsimp only
    rw [ih, outcomes, List.map_cons, Nat.add_right_comm]

/-- **The text of a run is that of its entries**, each line with its end. -/
theorem written_eq (runId : String) (operations : List Operation) :
    written runId operations =
      String.join ((emitted runId operations).map fun entry => entry.line ++ "\n") := by
  rw [written, run_eq, emitted]
  generalize outcomes runId 1 operations = entries
  induction entries with
  | nil => rfl
  | cons outcome entries ih =>
    cases outcome with
    | none =>
      rw [List.map_cons, String.join_cons, ih, List.reduceOption_cons_of_none]
      exact String.empty_append
    | some entry =>
      rw [List.map_cons, String.join_cons, ih, List.reduceOption_cons_of_some, List.map_cons,
        String.join_cons]
      rfl

/-! ### Entries without ids of their own -/

/-- Entries that are numbered in their order, from a number on. -/
def numbered (runId : String) (number : Nat) (entries : List Entry) : List Entry :=
  (entries.zipIdx number).map fun (entry, number) =>
    { entry with traceId := traceId runId number }

theorem numbered_append (runId : String) (number : Nat) (entries more : List Entry) :
    numbered runId number (entries ++ more) =
      numbered runId number entries ++ numbered runId (number + entries.length) more := by
  rw [numbered, List.zipIdx_append, List.map_append]
  rfl

/-- **Entries without ids are written under consecutive numbers.** -/
theorem run_write (emitter : Emitter) {entries : List Entry}
    (unnumbered : ∀ entry ∈ entries, entry.traceId = "") :
    emitter.run (entries.map .write) =
      ((numbered emitter.runId (emitter.sequence + 1) entries).map fun entry => entry.line ++ "\n",
        { emitter with sequence := emitter.sequence + entries.length }) := by
  induction entries generalizing emitter with
  | nil => rfl
  | cons entry entries ih =>
    obtain ⟨first, others⟩ := List.forall_mem_cons.mp unnumbered
    have given : Operation.numbered (.write entry) = true := by
      rw [Operation.numbered, first]
      rfl
    have filled : Operation.entry? emitter.runId (emitter.sequence + 1) (.write entry) =
        some { entry with traceId := traceId emitter.runId (emitter.sequence + 1) } :=
      congrArg some (if_pos given)
    rw [List.map_cons, run, step_eq, given, filled]
    dsimp only
    rw [ih _ others, List.length_cons]
    simp only [numbered, List.zipIdx_cons, List.map_cons, ended, Option.elim_some,
      Bool.toNat_true, Prod.mk.injEq, true_and, Emitter.mk.injEq]
    omega

end Emitter

/-! ### Lines -/

/-- Parts that end where the mark stands are found again. -/
theorem splitOn_flatMap_ended {α : Type} [BEq α] [LawfulBEq α] {mark : α} {parts : List (List α)}
    (unmarked : ∀ part ∈ parts, mark ∉ part) :
    (parts.flatMap fun part => part ++ [mark]).splitOn mark = parts ++ [[]] := by
  induction parts with
  | nil => exact List.splitOn_nil mark
  | cons part parts ih =>
    obtain ⟨first, others⟩ := List.forall_mem_cons.mp unmarked
    rw [List.flatMap_cons, List.append_assoc, List.singleton_append,
      List.splitOn_append_cons_self_of_not_mem first, ih others, List.cons_append]

theorem newline_not_mem_line (entry : Entry) : (10 : UInt8) ∉ utf8Bytes entry.line := by
  intro inside
  exact newline_not_mem_compact entry.toValue (mem_of_mem_utf8Bytes (by decide) inside)

/-! ### Sinks -/

namespace Sink

variable (sink : Sink) (bytes : List UInt8)

theorem close_eq : sink.close = sink.placed ++ sink.held := rfl

/-- What is held back is not lost. -/
@[simp] theorem close_flush : sink.flush.close = sink.close := by simp [close, flush]

/-- **All that is written arrives**, in order, once the sink is closed. -/
@[simp] theorem close_write : (sink.write bytes).close = sink.close ++ bytes := by
  unfold write
  by_cases full : sink.capacity < sink.held.length + bytes.length
  · rw [if_pos full]
    dsimp only
    split_ifs <;> simp [close_eq, flush]
  · rw [if_neg full]
    by_cases large : sink.capacity ≤ bytes.length
    · have empty : sink.held = [] := List.eq_nil_of_length_eq_zero (by omega)
      simp [close_eq, large, empty]
    · simp [close_eq, large]

end Sink

/-- **The bytes of a run arrive**, whatever the sink holds back on the way. -/
theorem close_pour (emitter : Emitter) (sink : Sink) (operations : List Emitter.Operation) :
    (emitter.pour sink operations).close =
      sink.close ++ utf8Bytes (String.join (emitter.run operations).1) := by
  induction operations generalizing emitter sink with
  | nil => simp [Emitter.pour, Emitter.run, String.join]
  | cons operation rest ih =>
    rw [Emitter.pour, Emitter.run]
    dsimp only
    rw [ih, String.join_cons, utf8Bytes_append, ← List.append_assoc]
    cases operation with
    | emit clock level event => rw [Sink.close_write]
    | write entry => rw [Sink.close_write]
    | flush => simp [Emitter.step]

/-! ### Reading the lines -/

namespace Emitter

variable {runId : String} {operations : List Operation}

/-- An entry of a run was written by one of its operations. -/
theorem mem_emitted {entry : Entry} (inside : entry ∈ emitted runId operations) :
    ∃ number, ∃ operation ∈ operations, operation.entry? runId number = some entry := by
  suffices each : ∀ number, some entry ∈ outcomes runId number operations →
      ∃ number, ∃ operation ∈ operations, operation.entry? runId number = some entry from
    each 1 (List.reduceOption_mem_iff.mp inside)
  clear inside
  induction operations with
  | nil => exact nofun
  | cons operation rest ih =>
    intro number among
    rcases List.mem_cons.mp among with first | later
    · exact ⟨number, operation, List.mem_cons_self, first.symm⟩
    · obtain ⟨number, operation, inside, writes⟩ := ih _ later
      exact ⟨number, operation, List.mem_cons_of_mem _ inside, writes⟩

/-- Entries that are held are emitted as such: a trace id is all that is filled in. -/
theorem held_of_mem_emitted (held : ∀ entry, .write entry ∈ operations → entry.Held) {entry : Entry}
    (inside : entry ∈ emitted runId operations) : entry.Held := by
  obtain ⟨number, operation, among, writes⟩ := mem_emitted inside
  cases operation with
  | emit clock level event =>
    rw [← Option.some.inj writes]
    exact ⟨nofun, nofun⟩
  | write given =>
    obtain ⟨duration, details⟩ := held given among
    rw [← Option.some.inj writes]
    split_ifs <;> exact ⟨duration, details⟩
  | flush => cases writes

/-- **Every line ends at the only end of line in it.** -/
theorem splitOn_written (runId : String) (operations : List Operation) :
    (utf8Bytes (written runId operations)).splitOn 10 =
      (emitted runId operations).map (fun entry => utf8Bytes entry.line) ++ [[]] := by
  have bytes : utf8Bytes (written runId operations) =
      ((emitted runId operations).map fun entry => utf8Bytes entry.line).flatMap
        fun line => line ++ [10] := by
    rw [written_eq]
    induction emitted runId operations with
    | nil => exact utf8Bytes_empty
    | cons entry entries ih =>
      rw [List.map_cons, String.join_cons, utf8Bytes_append, utf8Bytes_append, ih, List.map_cons,
        List.flatMap_cons, utf8Bytes_newline]
  rw [bytes, splitOn_flatMap_ended]
  rw [List.forall_mem_map]
  exact fun entry _ => newline_not_mem_line entry

end Emitter

open Emitter

/-- **The lines of a run are read as the entries that it emitted.** -/
theorem stream_read_back (runId : String) (operations : List Operation)
    (held : ∀ entry, .write entry ∈ operations → entry.Held) :
    (Emitter.run { runId } operations).1 = (outcomes runId 1 operations).map ended ∧
      (utf8Bytes (written runId operations)).splitOn 10 =
        (emitted runId operations).map (fun entry => utf8Bytes entry.line) ++ [[]] ∧
      (∀ entry ∈ emitted runId operations,
        Entry.ofJson entry.line = entry.reread ∧
          (Entry.ofJson entry.line = .ok entry.withoutNull ↔ ∀ x ∈ entry.numbers, ReadsBack x) ∧
          ((∀ x ∈ entry.numbers, Brief x) → Entry.ofJson entry.line = .ok entry.withoutNull)) ∧
      (Emitter.pour { runId } .memory operations).close = utf8Bytes (written runId operations) ∧
      ∀ (tree created : FileTree) (path : PathName), tree.write path [] = .ok created →
        ∃ after, created.write path (Emitter.pour { runId } .file operations).close = .ok after ∧
          after.read path = .ok (utf8Bytes (written runId operations)) ∧
          decodeUtf8 (utf8Bytes (written runId operations)) =
            .ok (written runId operations).toList := by
  refine ⟨run_eq _ _, splitOn_written runId operations, fun entry inside => ?_, ?_, ?_⟩
  · have held := held_of_mem_emitted held inside
    refine ⟨ofJson_line held, ofJson_line_iff held, fun brief => ?_⟩
    exact (ofJson_line_iff held).mpr fun x among =>
      readsBack_of_brief (held.isFinite x among) (brief x among)
  · exact close_pour { runId } .memory operations
  · intro tree created path made
    have arrived : (Emitter.pour { runId } .file operations).close =
        utf8Bytes (written runId operations) := close_pour { runId } .file operations
    rw [arrived]
    obtain ⟨after, last, read⟩ := FileTree.write_write made
    exact ⟨after, last, read, decodeUtf8_utf8Bytes _⟩

/-- An entry with every member, ends of lines and other controls in its strings, and its id left
open. -/
def fullEntry : Entry :=
  ⟨"then", "", .warn, "one\ntwo \"quoted\" \\ \u2028 \x00", some "beta\r", some "ibeta", some .fail,
    some 3, some (.object [("case", .string "a\nb"), ("error", .float 0.25),
      ("list", .array [.null, .integer (-7), .boolean true])])⟩

/-- A run with an entry of its own and two that are given, the last with an id and `null`. -/
def mixedRun : List Operation :=
  [.emit ⟨1700000000, 123456789⟩ .info "start", .write fullEntry, .flush,
    .write ⟨"now", "mine", .error, "end", none, none, none, none, some .null⟩]

theorem mixedRun_read_back :
    (emitted "run" mixedRun).map (fun entry => Entry.ofJson entry.line) =
      (emitted "run" mixedRun).map (fun entry => .ok entry.withoutNull) := by
  have held : ∀ entry, .write entry ∈ mixedRun → entry.Held := by
    intro entry inside
    simp only [mixedRun, List.mem_cons, List.not_mem_nil, or_false, reduceCtorEq, false_or,
      Operation.write.injEq] at inside
    rcases inside with rfl | rfl
    · refine ⟨by decide, ?_⟩
      rintro _ ⟨rfl⟩
      refine .object (by decide) ?_
      simp only [List.forall_mem_cons, List.not_mem_nil, false_imp_iff, implies_true, and_true]
      refine ⟨.string _, .float (by decide +kernel), .array ?_⟩
      simp only [List.forall_mem_cons, List.not_mem_nil, false_imp_iff, implies_true, and_true]
      exact ⟨.null, .integer (by decide) (by decide), .boolean _⟩
    · refine ⟨nofun, ?_⟩
      rintro _ ⟨rfl⟩
      exact .null
  refine List.map_congr_left fun entry inside => ?_
  refine ((stream_read_back "run" mixedRun held).2.2.1 entry inside).2.2 fun x among => ?_
  constructor
  all_goals
    revert entry x
    decide +kernel

/-- **A line need not be read as the entry that was emitted.** The double is written as `2e-32`, and
neither a division by `10 ^ 32` nor its rounding leads back to it. -/
theorem line_read_otherwise : ∃ operations : List Operation,
    (∀ entry, .write entry ∈ operations → entry.Held) ∧
      ∃ entry ∈ emitted "r" operations, entry.withoutNull = entry ∧
        Entry.ofJson entry.line ≠ .ok entry := by
  let entry : Entry := ⟨"T", "r::001", .info, "e", none, none, none, none, some (.float 2e-32)⟩
  have held : entry.Held := by
    refine ⟨nofun, ?_⟩
    rintro _ ⟨rfl⟩
    exact .float (by decide +kernel)
  refine ⟨[.write entry], ?_, entry, List.mem_singleton_self entry, rfl, fun same => ?_⟩
  · intro given inside
    rw [Operation.write.inj (List.mem_singleton.mp inside)]
    exact held
  · have back : ReadsBack 2e-32 := (ofJson_line_iff held).mp same 2e-32 (List.mem_singleton_self _)
    revert back
    rw [ReadsBack]
    decide +kernel

end IncompleteBeta.Log
