/-
**Diagnostics as lines of text.**

In the mode `text` an incident is written with its message as it stands, and a message can hold
texts that came from elsewhere: a symbol, the name of a parameter, or what an evaluation left behind
when it broke off. Nothing is escaped in them.

* `newlines`, `count_utf8Bytes`: the ends of lines in a text, and in its bytes;
* `OneLine`: bytes of which the last one ends a line, and no other does;
* `Incident.quoted`: the texts from elsewhere in a message;
* `newlines_message`: the message of an incident has their ends of lines, and none of its own;
* **`report_output_text`**: what is written is one line where none of these texts has an end of
  line, which holds of every call, and only there;
* `report_output_split`: an evaluation that breaks off with two lines is reported in two.
-/

import IncompleteBeta.Proofs.Diagnostics.Reports
import IncompleteBeta.Proofs.Dispatch
import IncompleteBeta.Proofs.Message
import IncompleteBeta.Proofs.Text.Utf8

namespace IncompleteBeta.Diagnostics

open Json (Uncontrolled)
open Text (utf8Bytes utf8Bytes_append utf8Bytes_newline utf8Bytes_eq utf8EncodeChar_toNat)

/-! ### Ends of lines -/

/-- The ends of lines in a text. -/
def newlines (text : String) : Nat := text.toList.count '\n'

/-- **Bytes that are one line**: the last one ends it, and no other does. -/
def OneLine (bytes : List UInt8) : Prop := bytes.count 10 = 1 ∧ bytes.getLast? = some 10

theorem newlines_append (text more : String) :
    newlines (text ++ more) = newlines text + newlines more := by
  rw [newlines, String.toList_append, List.count_append]
  rfl

theorem newlines_eq_zero {text : String} : newlines text = 0 ↔ '\n' ∉ text.toList :=
  List.count_eq_zero

theorem newlines_of_uncontrolled {text : String} (plain : Uncontrolled text.toList) :
    newlines text = 0 :=
  newlines_eq_zero.mpr fun inside => absurd (plain _ inside) (by decide)

theorem count_utf8EncodeChar (c : Char) :
    (String.utf8EncodeChar c).count 10 = [c].count '\n' := by
  have injective : Function.Injective UInt8.toNat := fun _ _ => UInt8.toNat_inj.mp
  rw [← List.count_map_of_injective _ _ injective, utf8EncodeChar_toNat]
  show List.count 10 _ = _
  by_cases newline : c = '\n'
  · subst newline
    rfl
  · have other : c.toNat ≠ 10 := fun same => newline (Char.toNat_inj.mp same)
    have apart : '\n' ∉ [c] := fun inside => newline (List.mem_singleton.mp inside).symm
    rw [List.count_eq_zero.mpr apart, List.count_eq_zero]
    split_ifs
    all_goals
      simp only [List.mem_cons, List.not_mem_nil, or_false]
      omega

/-- The newline byte ends a line wherever it stands. -/
theorem count_utf8Bytes (text : String) : (utf8Bytes text).count 10 = newlines text := by
  rw [utf8Bytes_eq, newlines]
  induction text.toList with
  | nil => rfl
  | cons c rest ih =>
    rw [List.flatMap_cons, List.count_append, ih, count_utf8EncodeChar, ← List.count_append,
      List.singleton_append]

/-! ### Messages -/

/-- The texts from elsewhere in the message of an incident. -/
def Incident.quoted : Incident → List String
  | .failure ⟨_, .domain parameter ..⟩ => [parameter]
  | .failure ⟨_, .noConvergence _⟩ => []
  | .failure ⟨_, .notFinite _⟩ => []
  | .missingOutput symbol => [symbol]
  | .panic symbol message => [symbol, message]

theorem newlines_name (routine : Routine) : newlines routine.name = 0 := by
  refine newlines_of_uncontrolled ?_
  cases routine with
  | evaluator asked =>
    rw [Routine.name_evaluator]
    exact uncontrolled_name asked
  | successUpperBound => decide +kernel
  | successLowerBound => decide +kernel

theorem newlines_ofList {text : List Char} (plain : Uncontrolled text) :
    newlines (String.ofList text) = 0 := by
  refine newlines_of_uncontrolled ?_
  rw [String.toList_ofList]
  exact plain

/-- **A message has the ends of lines of the texts from elsewhere**, and none of its own. -/
theorem newlines_message (incident : Incident) :
    newlines incident.message = (incident.quoted.map newlines).sum := by
  cases incident with
  | failure failure =>
    obtain ⟨routine, cause⟩ := failure
    show newlines (routine.name ++ ": " ++ cause.describe) = _
    rw [newlines_append, newlines_append, newlines_name]
    cases cause with
    | domain parameter value requirement =>
      show 0 + 0 + newlines (parameter ++ " = " ++ String.ofList (Layout.message.text value)
        ++ " is outside the domain (" ++ requirement.describe ++ ")") = newlines parameter
      have own : newlines " = " = 0 ∧ newlines " is outside the domain (" = 0 ∧
        newlines ")" = 0 := by decide +kernel
      simp only [newlines_append, newlines_ofList (uncontrolled_text _ _),
        newlines_of_uncontrolled (uncontrolled_requirement requirement)]
      omega
    | noConvergence rounds =>
      show 0 + 0 + newlines ("no convergence after " ++ String.ofList (Nat.toDigits 10 rounds)
        ++ " iterations") = 0
      simp only [newlines_append, newlines_ofList (.of_digits (allDigits_toDigits rounds))]
      rfl
    | notFinite quantity =>
      show 0 + 0 + newlines ("evaluation failed: " ++ quantity.describe) = 0
      simp only [newlines_append, newlines_of_uncontrolled (uncontrolled_quantity quantity)]
      rfl
  | missingOutput symbol =>
    show newlines (symbol ++ ": result pointer is null") = newlines symbol
    rw [newlines_append]
    rfl
  | panic symbol message =>
    show newlines (symbol ++ ": evaluator panicked: " ++ message) =
      newlines symbol + newlines message
    simp only [newlines_append]
    rfl

/-- The messages of calls have no texts from elsewhere that end a line, whatever goes wrong. -/
theorem newlines_call {Hook α : Type} {evaluator : Evaluator} {own inputs : Inputs} {slots : Slots}
    {symbol : String} {incident : Incident}
    (raises : Raises (.call evaluator own slots : Operation Hook α) symbol inputs incident) :
    newlines symbol = 0 ∧ newlines incident.message = 0 := by
  have named : newlines evaluator.symbol = 0 := by
    rw [evaluator.symbol_eq]
    exact newlines_of_uncontrolled (uncontrolled_name evaluator)
  cases raises with
  | missing =>
    rw [newlines_message]
    exact ⟨named, congrArg (· + 0) named⟩
  | evaluation _ _ _ failure place fails =>
    exact ⟨named, newlines_of_uncontrolled
      ((classified_finding evaluator _).uncontrolled_message fails)⟩

/-! ### Reports -/

section Reports

variable {Hook : Type} {session : Session Hook} (clock : Clock) (symbol : String) (inputs : Inputs)
  (incident : Incident)

/-- In the mode `text` and without a hook an incident is reported by its line. -/
theorem report_textLine (unhooked : session.hook = none) (text : session.resolve.1 = .text) :
    (session.report clock symbol inputs incident).1 =
      [.output (textLine symbol incident ++ "\n")] := by
  have sends := session.sends_of_report clock symbol inputs incident
  rw [unhooked, text] at sends
  generalize (session.report clock symbol inputs incident).1 = sent at sends ⊢
  cases sends
  rfl

theorem getLast?_textLine :
    (utf8Bytes (textLine symbol incident ++ "\n")).getLast? = some 10 := by
  rw [utf8Bytes_append, utf8Bytes_newline, List.getLast?_concat]

/-- The report of an incident has one end of line, and those of the texts from elsewhere. -/
theorem count_textLine : (utf8Bytes (textLine symbol incident ++ "\n")).count 10 =
    ((symbol :: incident.quoted).map newlines).sum + 1 := by
  rw [count_utf8Bytes, List.map_cons, List.sum_cons, ← newlines_message]
  simp only [textLine, newlines_append]
  show 0 + newlines symbol + 0 + newlines incident.message + 1 = _
  omega

theorem oneLine_textLine : OneLine (utf8Bytes (textLine symbol incident ++ "\n")) ↔
    ∀ part ∈ symbol :: incident.quoted, '\n' ∉ part.toList := by
  have ended := getLast?_textLine symbol incident
  rw [OneLine, and_iff_left ended, count_textLine, Nat.add_eq_right, List.sum_eq_zero_iff,
    List.forall_mem_map]
  exact forall₂_congr fun part _ => newlines_eq_zero

/-- **In the mode `text` and without a hook every incident is written once**, by the operation that
raises it. The last byte that is written ends a line, and the others do so as often as the symbol
and the texts in the message that came from elsewhere have it: what is written is one line where
these have no end of line, and more than one where they have. Of a call it is always one line. -/
theorem report_output_text {α : Type} (unhooked : session.hook = none)
    (text : session.resolve.1 = .text) :
    ∃ output : String,
      (session.report clock symbol inputs incident).1 = [.output output] ∧
      (∀ operation : Operation Hook α, Raises operation symbol inputs incident →
        (session.step clock operation).2.1 = [.output output]) ∧
      (utf8Bytes output).getLast? = some 10 ∧
      (utf8Bytes output).count 10 = ((symbol :: incident.quoted).map newlines).sum + 1 ∧
      (OneLine (utf8Bytes output) ↔ ∀ part ∈ symbol :: incident.quoted, '\n' ∉ part.toList) ∧
      ∀ (evaluator : Evaluator) (own : Inputs) (slots : Slots),
        Raises (.call evaluator own slots : Operation Hook α) symbol inputs incident →
          OneLine (utf8Bytes output) := by
  have reported := report_textLine clock symbol inputs incident unhooked text
  refine ⟨_, reported, fun operation raises => ?_, getLast?_textLine symbol incident,
    count_textLine symbol incident, oneLine_textLine symbol incident,
    fun evaluator own slots raises => ⟨?_, getLast?_textLine symbol incident⟩⟩
  · rw [Session.step_of_raises raises, reported]
  · obtain ⟨named, plain⟩ := newlines_call raises
    rw [count_textLine, List.map_cons, List.sum_cons, ← newlines_message, named, plain]

/-- A call without a place for its result, and an evaluation that breaks off with one line. -/
theorem report_output_lost :
    let session : Session Unit := .fresh none
    let missing : Operation Unit Unit := .call .upperQuantile ⟨2, 3, 0.5⟩ ⟨none, none⟩
    let lost : Operation Unit Unit :=
      .guard "ibetac_inv" ⟨2, 3, 0.5⟩ (.panicked (.borrowed "lost the bracket"))
    (∃ output : String, (session.step ⟨0, 0⟩ missing).2.1 = [.output output] ∧
      OneLine (utf8Bytes output)) ∧
    ∃ output : String, (session.step ⟨0, 0⟩ lost).2.1 = [.output output] ∧
      OneLine (utf8Bytes output) := by
  intro session missing lost
  have unhooked : session.hook = none := rfl
  have text : session.resolve.1 = .text := by decide
  constructor
  · have raises : Raises missing _ _ _ := .missing .upperQuantile _ _ rfl
    obtain ⟨output, -, sent, -, -, -, call⟩ :=
      report_output_text ⟨0, 0⟩ _ _ _ (α := Unit) unhooked text
    exact ⟨output, sent missing raises, call _ _ _ raises⟩
  · have raises : Raises lost _ _ _ := .borrowed "ibetac_inv" _ "lost the bracket"
    obtain ⟨output, -, sent, -, -, single, -⟩ :=
      report_output_text ⟨0, 0⟩ _ _ _ (α := Unit) unhooked text
    exact ⟨output, sent lost raises, single.mpr (by decide +kernel)⟩

/-- **An evaluation that breaks off with two lines is reported in two.** -/
theorem report_output_split :
    let session : Session Unit := .fresh none
    let broken : Operation Unit Unit := .guard "ibeta" ⟨2, 3, 0.5⟩ (.panicked (.owned "a\nb"))
    session.hook = none ∧ session.resolve.1 = .text ∧
      ∃ output : String, (session.step ⟨0, 0⟩ broken).2.1 = [.output output] ∧
        ¬OneLine (utf8Bytes output) := by
  refine ⟨rfl, by decide, "betainv: ibeta failed: ibeta: evaluator panicked: a\nb\n", rfl, ?_⟩
  rw [OneLine, count_utf8Bytes]
  exact fun single => absurd single.1 (by decide +kernel)

end Reports

end IncompleteBeta.Diagnostics
