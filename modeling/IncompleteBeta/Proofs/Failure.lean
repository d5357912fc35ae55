/-
**Results that may fail, taken apart.**

* `map_eq_ok`, `bind_eq_ok`, `bind_put_eq_ok`: where the value of a composed computation comes from;
* `map_eq_error`, `bind_eq_error`: where its failure comes from;
* `eq_ok_of_toOption`: a value that can be compared;
* `mapM_eq_ok_self`: traversals that give back what they were given;
* `attributeTo_eq_ok`, `causeOf_eq_ok`: naming or forgetting who was asked keeps the value;
* `attributeTo_eq_error`, `attributeTo_bind`, `attributeTo_map`: naming who was asked changes
  nothing else in a failure, and may be done in every part of a computation;
* `checked`, `checked_eq_ok`: arguments that pass their checks keep the value too;
* `Corresponds`: results that are the same but for who was asked.
-/

import IncompleteBeta.Binomial

namespace IncompleteBeta

section Except

variable {ε α β : Type}

theorem ok_bind (value : α) (f : α → Except ε β) : Except.ok value >>= f = f value := rfl

/-- A mapped value comes from a value. -/
theorem map_eq_ok {f : α → β} {result : Except ε α} {value : β} :
    result.map f = .ok value ↔ ∃ source, result = .ok source ∧ f source = value := by
  cases result with
  | ok source => simp [Except.map]
  | error raised => simp [Except.map]

/-- The value of a sequence comes from a value of its first part. -/
theorem bind_eq_ok {f : α → Except ε β} {result : Except ε α} {value : β} :
    result >>= f = .ok value ↔ ∃ source, result = .ok source ∧ f source = .ok value := by
  cases result with
  | ok source => simp [bind, Except.bind]
  | error raised => simp [bind, Except.bind]

/-- A computed field that is put in its place gives back the record exactly if it is the field that
was there. -/
theorem bind_put_eq_ok (put : α → β) (injective : Function.Injective put) {result : Except ε α}
    {value : α} : (do return put (← result)) = Except.ok (put value) ↔ result = .ok value := by
  cases result with
  | ok found =>
    show Except.ok (put found) = Except.ok (put value) ↔ _
    rw [Except.ok.injEq, Except.ok.injEq, injective.eq_iff]
  | error raised => exact iff_of_false nofun nofun

/-- The failure of a mapped result is that of the result. -/
theorem map_eq_error {f : α → β} {result : Except ε α} {raised : ε} :
    result.map f = .error raised ↔ result = .error raised := by
  cases result with
  | ok source => simp [Except.map]
  | error other => simp [Except.map]

/-- The failure of a sequence is that of its first part, or that of what follows its value. -/
theorem bind_eq_error {f : α → Except ε β} {result : Except ε α} {raised : ε} :
    result >>= f = .error raised ↔
      result = .error raised ∨ ∃ source, result = .ok source ∧ f source = .error raised := by
  cases result with
  | ok source => simp [bind, Except.bind]
  | error other => simp [bind, Except.bind]

theorem eq_ok_of_toOption {result : Except ε α} {value : α}
    (isSome : result.toOption = some value) : result = .ok value := by
  cases result with
  | ok source =>
    cases isSome
    rfl
  | error raised => cases isSome

/-! ### Traversals -/

/-- A traversal gives back what it was given where each of its steps does. -/
theorem mapM_eq_ok_self {step : α → Except ε α} {values : List α} :
    values.mapM step = .ok values ↔ ∀ value ∈ values, step value = .ok value := by
  induction values with
  | nil => exact iff_of_true rfl (List.forall_mem_nil _)
  | cons value values ih =>
    rw [List.mapM_cons, List.forall_mem_cons, ← ih, bind_eq_ok]
    constructor
    · rintro ⟨head, read, others⟩
      obtain ⟨tail, reads, same⟩ := bind_eq_ok.mp others
      cases same
      exact ⟨read, reads⟩
    · rintro ⟨read, reads⟩
      exact ⟨value, read, bind_eq_ok.mpr ⟨values, reads, rfl⟩⟩

theorem Option.mapM_eq_ok_self {step : α → Except ε α} {o : Option α} :
    o.mapM step = .ok o ↔ ∀ value ∈ o.toList, step value = .ok value := by
  cases o with
  | none => exact iff_of_true rfl (List.forall_mem_nil _)
  | some value =>
    rw [Option.mapM_some, Option.toList_some, List.forall_mem_singleton]
    cases step value with
    | error fault => exact iff_of_false nofun nofun
    | ok found =>
      show Except.ok (some found) = .ok (some value) ↔ _
      rw [Except.ok.injEq, Except.ok.injEq, Option.some_inj]

end Except

/-! ### Attribution -/

@[simp] theorem attributeTo_ok {α : Type} (routine : Routine) (value : α) :
    attributeTo routine (.ok value) = .ok value := rfl

@[simp] theorem attributeTo_error {α : Type} (routine : Routine) (cause : Cause) :
    attributeTo routine (.error cause : Except Cause α) = .error ⟨routine, cause⟩ := rfl

/-- Attributing a failure changes no value. -/
theorem attributeTo_eq_ok {α : Type} {routine : Routine} {result : Except Cause α} {value : α} :
    attributeTo routine result = .ok value ↔ result = .ok value := by
  cases result <;> simp

/-- A failure is attributed to the routine that was asked, with its cause. -/
theorem attributeTo_eq_error {α : Type} {routine : Routine} {result : Except Cause α}
    {failure : Failure} : attributeTo routine result = .error failure ↔
      failure.routine = routine ∧ result = .error failure.cause := by
  obtain ⟨asked, cause⟩ := failure
  cases result with
  | ok value => simp
  | error raised => simp [eq_comm]

/-- Attributing the failure of a sequence is attributing those of its parts. -/
theorem attributeTo_bind {α β : Type} (routine : Routine) (result : Except Cause α)
    (f : α → Except Cause β) : attributeTo routine (result >>= f) =
      attributeTo routine result >>= fun value => attributeTo routine (f value) := by
  cases result <;> rfl

/-- Attributing the failure of a mapped result is attributing that of the result. -/
theorem attributeTo_map {α β : Type} (routine : Routine) (f : α → β) (result : Except Cause α) :
    attributeTo routine (result.map f) = (attributeTo routine result).map f := by
  cases result <;> rfl

/-- **Two results that are the same but for who was asked**: one value, bit for bit, or failures of
one cause, each in the name of its own routine. -/
inductive Corresponds {α : Type} (routine otherRoutine : Routine) :
    Except Failure α → Except Failure α → Prop where
  | values (value : α) : Corresponds routine otherRoutine (.ok value) (.ok value)
  | failures (cause : Cause) :
      Corresponds routine otherRoutine (.error ⟨routine, cause⟩) (.error ⟨otherRoutine, cause⟩)

theorem corresponds_attributeTo {α : Type} (routine otherRoutine : Routine)
    (result : Except Cause α) : Corresponds routine otherRoutine (attributeTo routine result)
      (attributeTo otherRoutine result) := by
  cases result with
  | ok value => exact .values value
  | error cause => exact .failures cause

/-- Forgetting who was asked changes no value. -/
theorem causeOf_eq_ok {α : Type} {result : Except Failure α} {value : α} :
    causeOf result = .ok value ↔ result = .ok value := by
  cases result with
  | ok source =>
    show (Except.ok source : Except Cause α) = .ok value ↔ _
    rw [Except.ok.injEq, Except.ok.injEq]
  | error raised => exact iff_of_false nofun nofun

/-! ### Checked arguments -/

/-- A computation behind the checks of its arguments. -/
def checked {α : Type} (parameter : String) (a b x : Float) (result : Except Cause α) :
    Except Cause α := do
  requireShape "a" a
  requireShape "b" b
  requireUnit parameter x
  result

section Checked

variable {α : Type} {a b x : Float} {parameter : String} {result : Except Cause α}

/-- A value that is found behind the checks of the arguments: all of them passed. -/
theorem checked_eq_ok {value : α} : checked parameter a b x result = .ok value ↔
    requireShape "a" a = .ok () ∧ requireShape "b" b = .ok () ∧
      requireUnit parameter x = .ok () ∧ result = .ok value := by
  constructor
  · intro found
    obtain ⟨_, shape, found⟩ := bind_eq_ok.mp found
    obtain ⟨_, otherShape, found⟩ := bind_eq_ok.mp found
    obtain ⟨_, unit, found⟩ := bind_eq_ok.mp found
    exact ⟨shape, otherShape, unit, found⟩
  · rintro ⟨shape, otherShape, unit, found⟩
    rw [checked, shape, otherShape, unit]
    exact found

end Checked

end IncompleteBeta
