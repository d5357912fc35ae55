/-
**Capped iterations.**

An iteration repeats one step. The step may settle on an answer, fail with a cause, or pass on a
state for the next round; when the rounds are used up, the iteration reports that as well.

* `Step`: what one round comes to;
* `iterate`: at most the given number of rounds;
* `iterate_eq_of_settled`, `iterate_eq_of_failed`, `iterate_eq_of_next`: one round of it.
-/

namespace IncompleteBeta

/-- What one round of an iteration comes to. -/
inductive Step (σ : Type) (ε : Type) (α : Type) where
  | settled (answer : α)
  | failed (cause : ε)
  | next (state : σ)

/-- At most `rounds` rounds of `step` from `state`; `exhausted` is the failure of using them up. -/
@[specialize] def iterate {σ ε α : Type} (step : σ → Step σ ε α) (exhausted : ε) :
    (rounds : Nat) → (state : σ) → Except ε α
  | 0, _ => .error exhausted
  | rounds + 1, state =>
    match step state with
    | .settled answer => .ok answer
    | .failed cause => .error cause
    | .next state => iterate step exhausted rounds state

section Rounds

variable {σ ε α : Type} {step : σ → Step σ ε α} {exhausted : ε} {state : σ}

theorem iterate_zero : iterate step exhausted 0 state = .error exhausted := rfl

theorem iterate_eq_of_settled {answer : α} (settles : step state = .settled answer)
    (rounds : Nat) : iterate step exhausted (rounds + 1) state = .ok answer := by
  simp [iterate, settles]

theorem iterate_eq_of_failed {cause : ε} (fails : step state = .failed cause) (rounds : Nat) :
    iterate step exhausted (rounds + 1) state = .error cause := by
  simp [iterate, fails]

theorem iterate_eq_of_next {later : σ} (goesOn : step state = .next later) (rounds : Nat) :
    iterate step exhausted (rounds + 1) state = iterate step exhausted rounds later := by
  simp [iterate, goesOn]

end Rounds

end IncompleteBeta
