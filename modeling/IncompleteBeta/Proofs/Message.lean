/-
**The wording of failures, character by character.**

* `uncontrolled_text`: doubles are written without control characters, in every layout;
* `uncontrolled_describe`: and so are causes, as long as their parameters have none;
* **`Classified.uncontrolled_message`**: the messages of the evaluators have none at all;
* `hookMessage_of_uncontrolled`: so a hook is handed them as they are.
-/

import IncompleteBeta.Diagnostics.Session
import IncompleteBeta.Proofs.Causes
import IncompleteBeta.Proofs.Json.OneLine

namespace IncompleteBeta

open Json (Uncontrolled uncontrolled_append uncontrolled_finiteText)

theorem uncontrolled_text (layout : Layout) (x : Float) : Uncontrolled (layout.text x) := by
  unfold Layout.text
  split_ifs
  · decide
  · decide
  · decide
  · exact uncontrolled_finiteText layout x

theorem uncontrolled_requirement (requirement : Requirement) :
    Uncontrolled requirement.describe.toList := by
  cases requirement <;> decide +kernel

theorem uncontrolled_quantity (quantity : Quantity) : Uncontrolled quantity.describe.toList := by
  cases quantity <;> decide +kernel

/-- A cause is told without control characters, unless its parameter has some. -/
theorem uncontrolled_describe {cause : Cause}
    (plain : ∀ parameter value requirement, cause = .domain parameter value requirement →
      Uncontrolled parameter.toList) : Uncontrolled cause.describe.toList := by
  cases cause with
  | domain parameter value requirement =>
    show Uncontrolled (parameter ++ " = " ++ String.ofList (Layout.message.text value)
      ++ " is outside the domain (" ++ requirement.describe ++ ")").toList
    simp only [String.toList_append, String.toList_ofList, uncontrolled_append]
    exact ⟨⟨⟨⟨⟨plain _ _ _ rfl, by decide +kernel⟩, uncontrolled_text _ _⟩, by decide +kernel⟩,
      uncontrolled_requirement requirement⟩, by decide +kernel⟩
  | noConvergence rounds =>
    show Uncontrolled ("no convergence after " ++ String.ofList (Nat.toDigits 10 rounds)
      ++ " iterations").toList
    simp only [String.toList_append, String.toList_ofList, uncontrolled_append]
    exact ⟨⟨by decide +kernel, .of_digits (allDigits_toDigits rounds)⟩, by decide +kernel⟩
  | notFinite quantity =>
    show Uncontrolled ("evaluation failed: " ++ quantity.describe).toList
    simp only [String.toList_append, uncontrolled_append]
    exact ⟨by decide +kernel, uncontrolled_quantity quantity⟩

theorem uncontrolled_name (evaluator : Evaluator) : Uncontrolled evaluator.name.toList := by
  cases evaluator <;> decide +kernel

section Evaluators

variable {parameter : String} {a b arg : Float} {cause : Cause}

/-- The arguments of evaluators have plain names. -/
theorem Evaluator.uncontrolled_parameter (evaluator : Evaluator) :
    Uncontrolled evaluator.parameter.toList := by
  cases evaluator <;> decide +kernel

theorem Offends.uncontrolled (offends : Offends parameter a b arg cause)
    (plain : Uncontrolled parameter.toList) : Uncontrolled cause.describe.toList := by
  refine uncontrolled_describe fun name value requirement same => ?_
  cases offends with
  | first => cases same; decide +kernel
  | second => cases same; decide +kernel
  | last => cases same; exact plain

/-- **The messages of the evaluators have no control characters.** -/
theorem Classified.uncontrolled_message {α : Type} {evaluator : Evaluator}
    {result : Except Failure α} {failure : Failure}
    (classified : Classified evaluator a b arg result) (failed : result = .error failure) :
    Uncontrolled failure.message.toList := by
  obtain ⟨routine, cause⟩ := failure
  have named : routine = .evaluator evaluator := classified.named _ failed
  subst named
  have described : Uncontrolled cause.describe.toList := by
    by_cases domain : cause.kind = .domain
    · exact ((classified.offender cause).mpr ⟨failed, domain⟩).uncontrolled
        evaluator.uncontrolled_parameter
    · rcases classified.others _ failed domain with ⟨rounds, same, _⟩ | ⟨quantity, same, _⟩
      · exact uncontrolled_describe fun _ _ _ other => by cases same.symm.trans other
      · exact uncontrolled_describe fun _ _ _ other => by cases same.symm.trans other
  simp only [Failure.message, Routine.name_evaluator, String.toList_append, uncontrolled_append]
  exact ⟨⟨uncontrolled_name evaluator, by decide +kernel⟩, described⟩

end Evaluators

/-- A hook is handed a message without control characters as it is. -/
theorem hookMessage_of_uncontrolled {message : String} (plain : Uncontrolled message.toList) :
    Diagnostics.Session.hookMessage message = message := by
  have kept : ∀ c ∈ message.toList, (if c = '\x00' then ' ' else c) = c := by
    intro c inside
    refine if_neg fun nul => ?_
    have visible := plain c inside
    rw [nul] at visible
    exact absurd visible (by decide)
  rw [Diagnostics.Session.hookMessage, List.map_congr_left kept, List.map_id', String.ofList_toList]

end IncompleteBeta
