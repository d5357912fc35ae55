/-
**What a caller of an entry point can rely on.**

* `Finding.of`: what an evaluator finds for its arguments, the complement of a point included;
* `enter_without_place`, `enter_with_place`: an entry point stores what is found, unless there is
  no place for it;
* `Contract`: what holds between the slots before a call, its status and the slots after it;
* `call_contract`: every call honours the contract, whatever the session has seen before, and
  nothing of that shows in the status or in the slots.
-/

import IncompleteBeta.Proofs.Diagnostics.History
import IncompleteBeta.Proofs.Failure

namespace IncompleteBeta.Diagnostics

/-! ### What is found -/

/-- What an evaluator finds: a point with its complement, or a tail. -/
structure Finding where
  primary : Float
  complement : Option Float

namespace Finding

/-- What an evaluator finds for its arguments. -/
def of (evaluator : Evaluator) (inputs : Inputs) : Except Failure Finding :=
  match evaluator with
  | .quantile =>
    (quantile inputs.a inputs.b inputs.arg).map fun pair => ⟨pair.value, some pair.complement⟩
  | .upperQuantile =>
    (upperQuantile inputs.a inputs.b inputs.arg).map fun pair => ⟨pair.value, some pair.complement⟩
  | .lowerTail => (lowerTail inputs.a inputs.b inputs.arg).map fun tail => ⟨tail, none⟩
  | .upperTail => (upperTail inputs.a inputs.b inputs.arg).map fun tail => ⟨tail, none⟩

/-- The slots once a finding is stored: a complement goes where there is a place for it. -/
def storedIn (found : Finding) (slots : Slots) : Slots where
  primary := some found.primary
  complement :=
    match found.complement with
    | some complement => slots.complement.map fun _ => complement
    | none => slots.complement

/-- Tails come without a complement. -/
theorem complement_of_tail {evaluator : Evaluator} {inputs : Inputs} {found : Finding}
    (tail : evaluator = .lowerTail ∨ evaluator = .upperTail)
    (finds : of evaluator inputs = .ok found) : found.complement = none := by
  rcases tail with rfl | rfl
  · obtain ⟨value, _, rfl⟩ := map_eq_ok.mp finds
    rfl
  · obtain ⟨value, _, rfl⟩ := map_eq_ok.mp finds
    rfl

end Finding

/-! ### Entering -/

/-- Without a place for the result nothing is evaluated. -/
theorem enter_without_place (evaluator : Evaluator) (inputs : Inputs) {slots : Slots}
    (missing : slots.primary = none) :
    enter evaluator inputs slots = .error (.missingOutput evaluator.symbol) := by
  cases evaluator <;> simp only [enter, storing, missing]

/-- With a place for it, the result is stored, or its failure is the incident. -/
theorem enter_with_place (evaluator : Evaluator) (inputs : Inputs) {slots : Slots} {held : Float}
    (place : slots.primary = some held) :
    enter evaluator inputs slots =
      match Finding.of evaluator inputs with
      | .ok found => .ok (found.storedIn slots)
      | .error failure => .error (.failure failure) := by
  cases evaluator with
  | quantile =>
    simp only [enter, storing, place, Finding.of]
    cases quantile inputs.a inputs.b inputs.arg <;> rfl
  | upperQuantile =>
    simp only [enter, storing, place, Finding.of]
    cases upperQuantile inputs.a inputs.b inputs.arg <;> rfl
  | lowerTail =>
    simp only [enter, storing, place, Finding.of]
    cases lowerTail inputs.a inputs.b inputs.arg <;> rfl
  | upperTail =>
    simp only [enter, storing, place, Finding.of]
    cases upperTail inputs.a inputs.b inputs.arg <;> rfl

/-! ### The contract -/

/-- What holds between the slots before a call, its status and the slots after it. -/
structure Contract (evaluator : Evaluator) (inputs : Inputs) (before : Slots) (status : Nat)
    (after : Slots) : Prop where
  /-- Success is a place for the result and a result. -/
  success_iff : status = 0 ↔
    before.primary.isSome = true ∧ ∃ found, Finding.of evaluator inputs = .ok found
  /-- There is one other status. -/
  failure : status ≠ 0 → status = 1
  /-- A success stores the primary value. -/
  primary_stored : status = 0 → ∀ found, Finding.of evaluator inputs = .ok found →
    after.primary = some found.primary
  /-- A success stores the complement of a point where there is a place for it, and makes no
  place. -/
  complement_stored : status = 0 → ∀ found complement, Finding.of evaluator inputs = .ok found →
    found.complement = some complement →
    after.complement = before.complement.map fun _ => complement
  /-- A tail leaves the place of a complement alone. -/
  complement_kept : evaluator = .lowerTail ∨ evaluator = .upperTail →
    after.complement = before.complement
  /-- A failure changes neither slot. -/
  untouched : status = 1 → after = before

/-- Storing what was found honours the contract. -/
theorem contract_of_found {evaluator : Evaluator} {inputs : Inputs} {before : Slots}
    {found : Finding} (place : before.primary.isSome = true)
    (finds : Finding.of evaluator inputs = .ok found) :
    Contract evaluator inputs before statusOk (found.storedIn before) where
  success_iff := ⟨fun _ => ⟨place, found, finds⟩, fun _ => rfl⟩
  failure nonzero := absurd rfl nonzero
  primary_stored _ other same := by
    rw [finds] at same
    cases same
    rfl
  complement_stored _ other complement same some := by
    rw [finds] at same
    cases same
    simp only [Finding.storedIn, some]
  complement_kept tail := by
    simp only [Finding.storedIn, Finding.complement_of_tail tail finds]
  untouched one := by cases one

/-- Leaving the slots alone honours the contract where nothing can be stored. -/
theorem contract_of_not_found {evaluator : Evaluator} {inputs : Inputs} {before : Slots}
    (nothing : ¬ (before.primary.isSome = true ∧
      ∃ found, Finding.of evaluator inputs = .ok found)) :
    Contract evaluator inputs before statusFailed before where
  success_iff := ⟨fun zero => (by cases zero), fun both => absurd both nothing⟩
  failure _ := rfl
  primary_stored zero := by cases zero
  complement_stored zero := by cases zero
  complement_kept _ := rfl
  untouched _ := rfl

/-- The status and the slots of a call, which honour the contract in any session. -/
theorem step_call_contract {Hook α : Type} (evaluator : Evaluator) (inputs : Inputs)
    (slots : Slots) : ∃ status after, Contract evaluator inputs slots status after ∧
      ∀ (session : Session Hook) (clock : Clock),
        (session.step clock (.call evaluator inputs slots : Operation Hook α)).1 =
          .called status after := by
  cases place : slots.primary with
  | none =>
    refine ⟨statusFailed, slots, contract_of_not_found ?_, fun session clock => ?_⟩
    · rintro ⟨isSome, _⟩
      rw [place] at isSome
      cases isSome
    · rw [Session.step_call_error session clock (enter_without_place evaluator inputs place)]
  | some held =>
    have isSome : slots.primary.isSome = true := by rw [place]; rfl
    have entered := enter_with_place evaluator inputs place
    cases finds : Finding.of evaluator inputs with
    | ok found =>
      rw [finds] at entered
      refine ⟨statusOk, found.storedIn slots, contract_of_found isSome finds,
        fun session clock => ?_⟩
      rw [Session.step_call_ok session clock entered]
    | error failure =>
      rw [finds] at entered
      refine ⟨statusFailed, slots, contract_of_not_found ?_, fun session clock => ?_⟩
      · rintro ⟨_, found, same⟩
        rw [finds] at same
        cases same
      · rw [Session.step_call_error session clock entered]

/-- **The contract of entry points.** After any history in any environment a call has a status and
leaves slots that honour the contract, a missing place for the result is what the session then
reports, and another history in another environment at another time changes neither the status nor
the slots. -/
theorem call_contract {Hook α : Type} (environment : Option String) (history : History Hook α)
    (clock : Clock) (evaluator : Evaluator) (inputs : Inputs) (slots : Slots) :
    let session := ((Session.fresh environment).run history).2
    let call : Operation Hook α := .call evaluator inputs slots
    (∃ status after, (session.step clock call).1 = .called status after ∧
      Contract evaluator inputs slots status after) ∧
    (slots.primary = none →
      (session.step clock call).2 =
        session.report clock evaluator.symbol inputs (.missingOutput evaluator.symbol)) ∧
    ∀ (other : Option String) (otherHistory : History Hook α) (otherClock : Clock),
      (((Session.fresh other).run otherHistory).2.step otherClock call).1 =
        (session.step clock call).1 := by
  obtain ⟨status, after, contract, answered⟩ :=
    @step_call_contract Hook α evaluator inputs slots
  refine ⟨⟨status, after, answered _ _, contract⟩, fun missing => ?_, fun _ _ _ => ?_⟩
  · rw [Session.step_call_error _ clock (enter_without_place evaluator inputs missing)]
  · rw [answered, answered]

end IncompleteBeta.Diagnostics
