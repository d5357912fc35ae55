/-
**The numbers of a run.**

One counter serves both operations that write: a new entry is always given the next number, and a
given entry only if it has no id of its own.

* `Numeral`: the decimal digits of a number, as many as it has but at least three;
* `traceId_injective`: no two numbers make one id, however many digits they have;
* `assigned`: the ids that a run gives out, as they stand in what it writes;
* **`assigned_outcomes`**, `sequence_run`: they are those of consecutive numbers, up to the number
  at which the emitter is left;
* `outcomes_eraseIdx`: an entry with an id of its own takes no number from the others;
* **`trace_ids_consecutive`**: all of this for the runs of a new emitter.
-/

import IncompleteBeta.Proofs.Log.Stream
import IncompleteBeta.Proofs.Time.Timestamp

namespace IncompleteBeta.Log

namespace Emitter

/-! ### Ids -/

/-- **The decimal digits of a number**, with zeros in front only up to three digits. -/
structure Numeral (number : Nat) (text : List Char) : Prop where
  digits : AllDigits text
  value : digitsValue 0 text = number
  three_le : 3 ≤ text.length
  leading : 3 < text.length → text.head? ≠ some '0'

theorem numeral_paddedText (number : Nat) : Numeral number (paddedText 3 number) where
  digits := allDigits_paddedText 3 number
  value := digitsValue_paddedText 2 number
  three_le := le_length_paddedText 3 number
  leading := by
    intro long
    rw [paddedText, List.length_append, List.length_replicate] at long
    have unpadded : 3 - (Nat.toDigits 10 number).length = 0 := by omega
    have positive : 0 < number := by
      refine Nat.pos_of_ne_zero ?_
      rintro rfl
      rw [toDigits_zero] at long
      exact absurd long (by decide)
    obtain ⟨c, rest, leading, nonzero⟩ := toDigits_eq_cons positive
    rw [paddedText, unpadded, List.replicate_zero, List.nil_append, leading, List.head?_cons]
    exact fun zero => nonzero (Option.some.inj zero)

theorem traceId_eq (runId : String) (number : Nat) :
    ∃ text, Numeral number text ∧ traceId runId number = runId ++ "::" ++ String.ofList text :=
  ⟨paddedText 3 number, numeral_paddedText number, rfl⟩

/-- **No two numbers make one id.** -/
theorem traceId_injective (runId : String) : Function.Injective (traceId runId) := by
  intro number otherNumber same
  have texts : paddedText 3 number = paddedText 3 otherNumber := by
    have characters := congrArg String.toList same
    simp only [traceId, String.toList_append, String.toList_ofList] at characters
    exact List.append_cancel_left characters
  rw [← (numeral_paddedText number).value, texts, (numeral_paddedText otherNumber).value]

example : traceId "run" 7 = "run::007" ∧ traceId "run" 1000 = "run::1000" := by decide +kernel

theorem traceId_ne_empty (runId : String) (number : Nat) : traceId runId number ≠ "" := by
  intro empty
  have length := congrArg String.length empty
  rw [traceId, String.length_append, String.length_append] at length
  have mark : "::".length = 2 := rfl
  have none : "".length = 0 := rfl
  omega

/-! ### Numbers that are given out -/

/-- The ids that operations are given, as they stand in the entries that these write. -/
def assignedIn (operations : List Operation) (written : List (Option Entry)) : List String :=
  (operations.zip written).filterMap fun pair =>
    if pair.1.numbered then pair.2.map Entry.traceId else none

/-- **The ids that a run gives out**, in their order. -/
def assigned (runId : String) (operations : List Operation) : List String :=
  assignedIn operations (outcomes runId 1 operations)

section Numbers

variable {runId : String} {operation : Operation} {entry : Entry}

/-- What is given the next number writes an entry under it. -/
theorem traceId_of_numbered (runId : String) (number : Nat)
    (numbered : operation.numbered = true) :
    (operation.entry? runId number).map Entry.traceId = some (traceId runId number) := by
  cases operation with
  | emit clock level event => rfl
  | write entry => exact congrArg (Option.map Entry.traceId) (congrArg some (if_pos numbered))
  | flush => cases numbered

/-- An entry with an id of its own is written as it is. -/
theorem write_of_ne_empty (runId : String) (number : Nat) (own : entry.traceId ≠ "") :
    Operation.numbered (.write entry) = false ∧
      Operation.entry? runId number (.write entry) = some entry := by
  have present : entry.traceId.isEmpty = false := by
    rw [← Bool.not_eq_true, String.isEmpty_iff]
    exact own
  exact ⟨present, congrArg some (if_neg (by rw [present]; exact Bool.false_ne_true))⟩

theorem assignedIn_cons (operation : Operation) (operations : List Operation)
    (outcome : Option Entry) (written : List (Option Entry)) :
    assignedIn (operation :: operations) (outcome :: written) =
      (if operation.numbered then outcome.map Entry.traceId else none).toList ++
        assignedIn operations written := by
  unfold assignedIn
  rw [List.zip_cons_cons, List.filterMap_cons]
  dsimp only
  split
  next none => rw [none]; rfl
  next id some => rw [some]; rfl

/-- **The ids that are given out are those of consecutive numbers.** -/
theorem assigned_outcomes (runId : String) (number : Nat) (operations : List Operation) :
    assignedIn operations (outcomes runId number operations) =
      (List.range' number (operations.countP Operation.numbered)).map (traceId runId) := by
  induction operations generalizing number with
  | nil => rfl
  | cons operation rest ih =>
    rw [outcomes, assignedIn_cons, ih, List.countP_cons]
    cases numbered : operation.numbered with
    | false => rfl
    | true =>
      rw [traceId_of_numbered runId number numbered]
      rfl

/-- The counter of an emitter has gone on by the numbers that were given out. -/
theorem sequence_run (emitter : Emitter) (operations : List Operation) :
    (emitter.run operations).2.sequence =
      emitter.sequence + operations.countP Operation.numbered := by
  induction operations generalizing emitter with
  | nil => rfl
  | cons operation rest ih =>
    rw [run, step_eq]
    dsimp only
    rw [ih, List.countP_cons]
    cases operation.numbered <;> simp [Nat.add_comm, Nat.add_left_comm]

/-- **An entry with an id of its own takes no number**: all else is written as if it were not
there. -/
theorem outcomes_eraseIdx (number : Nat) {operations : List Operation} {index : Nat}
    (own : entry.traceId ≠ "") (given : operations[index]? = some (.write entry)) :
    (outcomes runId number operations)[index]? = some (some entry) ∧
      outcomes runId number (operations.eraseIdx index) =
        (outcomes runId number operations).eraseIdx index := by
  induction operations generalizing number index with
  | nil => cases given
  | cons operation rest ih =>
    cases index with
    | zero =>
      obtain rfl := Option.some.inj given
      obtain ⟨unnumbered, written⟩ := write_of_ne_empty runId number own
      rw [outcomes, written, unnumbered]
      exact ⟨rfl, rfl⟩
    | succ index =>
      obtain ⟨written, others⟩ := ih (number + operation.numbered.toNat) given
      exact ⟨written, congrArg _ others⟩

end Numbers

/-! ### Ids that are written -/

/-- No entry is written without an id. -/
theorem traceId_of_mem_emitted {runId : String} {operations : List Operation} {entry : Entry}
    (inside : entry ∈ emitted runId operations) : entry.traceId ≠ "" := by
  obtain ⟨number, operation, _, writes⟩ := mem_emitted inside
  cases numbered : operation.numbered with
  | true =>
    have id := traceId_of_numbered runId number numbered
    rw [writes, Option.map_some, Option.some_inj] at id
    rw [id]
    exact traceId_ne_empty runId number
  | false =>
    cases operation with
    | emit clock level event => cases numbered
    | flush => cases writes
    | write given =>
      have own : given.traceId ≠ "" := by
        rw [Ne, ← String.isEmpty_iff, Bool.not_eq_true]
        exact numbered
      rw [(write_of_ne_empty runId number own).2] at writes
      rwa [← Option.some.inj writes]

end Emitter

/-- A line that is read has the id of its entry. -/
theorem Entry.traceId_of_line {entry later : Entry} (held : entry.Held)
    (read : Entry.ofJson entry.line = .ok later) : later.traceId = entry.traceId := by
  rw [ofJson_line held] at read
  obtain ⟨details, _, same⟩ := bind_eq_ok.mp read
  cases same
  rfl

open Emitter

/-- **The ids of a run are numbered one after the other.** Whatever mixture of operations it is, the
ids that it gives out are those of 1, 2 and so on, in decimal digits of which there are at least
three, and no two of them are the same; there are no more of them than operations. An entry with an
id of its own is written with it, and takes no number. No entry is written without an id, and this
is the id that is read from its line. -/
theorem trace_ids_consecutive (runId : String) (operations : List Operation) :
    (Emitter.run { runId } operations).1 = (outcomes runId 1 operations).map ended ∧
      assigned runId operations =
        (List.range' 1 (operations.countP Operation.numbered)).map (traceId runId) ∧
      (∀ number, ∃ text, Numeral number text ∧
        traceId runId number = runId ++ "::" ++ String.ofList text) ∧
      (assigned runId operations).Nodup ∧
      (Emitter.run { runId } operations).2.sequence = (assigned runId operations).length ∧
      (assigned runId operations).length ≤ operations.length ∧
      (∀ (index : Nat) (entry : Entry), operations[index]? = some (.write entry) →
        entry.traceId ≠ "" →
          (outcomes runId 1 operations)[index]? = some (some entry) ∧
            outcomes runId 1 (operations.eraseIdx index) =
              (outcomes runId 1 operations).eraseIdx index) ∧
      ∀ entry ∈ emitted runId operations, entry.traceId ≠ "" ∧
        (entry.Held → ∀ later, Entry.ofJson entry.line = .ok later →
          later.traceId = entry.traceId) := by
  have ids : assigned runId operations =
      (List.range' 1 (operations.countP Operation.numbered)).map (traceId runId) :=
    assigned_outcomes runId 1 operations
  have count : (assigned runId operations).length = operations.countP Operation.numbered := by
    rw [ids, List.length_map, List.length_range']
  refine ⟨run_eq _ _, ids, traceId_eq runId, ?_, ?_, ?_, ?_, ?_⟩
  · rw [ids]
    exact (List.nodup_range' 1).map (traceId_injective runId)
  · rw [sequence_run, count]
    exact Nat.zero_add _
  · rw [count]
    exact List.countP_le_length
  · exact fun index entry given own => outcomes_eraseIdx 1 own given
  · exact fun entry inside =>
      ⟨traceId_of_mem_emitted inside, fun held later => Entry.traceId_of_line held⟩

/-- An entry with an id of its own, between two that are numbered. -/
def ownEntry : Entry := ⟨"now", "mine", .warn, "given", none, none, none, some 5, none⟩

def interleavedRun : List Operation :=
  [.emit ⟨1700000000, 0⟩ .info "start", .write ownEntry, .flush,
    .write { ownEntry with traceId := "" }]

theorem trace_ids_interleaved :
    assigned "run" interleavedRun = ["run::001", "run::002"] ∧
      (outcomes "run" 1 interleavedRun)[1]? = some (some ownEntry) ∧
      ∀ later, Entry.ofJson ownEntry.line = .ok later → later.traceId = "mine" := by
  obtain ⟨_, ids, _, _, _, _, own, lines⟩ := trace_ids_consecutive "run" interleavedRun
  have kept := (own 1 ownEntry rfl (by decide)).1
  have inside : ownEntry ∈ emitted "run" interleavedRun :=
    List.reduceOption_mem_iff.mpr (List.mem_of_getElem? kept)
  have held : ownEntry.Held := ⟨by decide, nofun⟩
  refine ⟨?_, kept, (lines ownEntry inside).2 held⟩
  rw [ids]
  decide +kernel

end IncompleteBeta.Log
