/-
**What an iteration ends with.**

* **`iterate_eq_ok`**: an answer was settled on in a state that has what every round keeps;
* **`iterate_eq_error`**: a failure is that of some round, or that of using up the rounds;
* `Iterated`, **`iterate_of_iterated`**: the first round that fails or settles is the last one;
* `Step.mapFailed`, `iterate_mapFailed`: failures renamed in every round, or once at the end.
-/

import IncompleteBeta.Iteration

namespace IncompleteBeta

deriving instance DecidableEq for Step

section Iterate

variable {σ ε α : Type} {step : σ → Step σ ε α} {exhausted : ε} {answer : α}

/-- **An answer was settled on in some round**, and what holds at the start and is kept from round
to round holds there. -/
theorem iterate_eq_ok {P : σ → Prop}
    (keeps : ∀ {state later}, P state → step state = .next later → P later)
    (rounds : Nat) {state : σ} (holds : P state)
    (ends : iterate step exhausted rounds state = .ok answer) :
    ∃ last, P last ∧ step last = .settled answer := by
  induction rounds generalizing state with
  | zero =>
    rw [iterate_zero] at ends
    cases ends
  | succ rounds ih =>
    cases outcome : step state with
    | settled found =>
      rw [iterate_eq_of_settled outcome] at ends
      cases ends
      exact ⟨state, holds, outcome⟩
    | failed cause =>
      rw [iterate_eq_of_failed outcome] at ends
      cases ends
    | next later =>
      rw [iterate_eq_of_next outcome] at ends
      exact ih (keeps holds outcome) ends

/-- **A failure is that of some round, or all rounds were used up.** -/
theorem iterate_eq_error {cause : ε} (rounds : Nat) {state : σ}
    (ends : iterate step exhausted rounds state = .error cause) :
    cause = exhausted ∨ ∃ last, step last = .failed cause := by
  induction rounds generalizing state with
  | zero =>
    rw [iterate_zero] at ends
    cases ends
    exact Or.inl rfl
  | succ rounds ih =>
    cases outcome : step state with
    | settled found =>
      rw [iterate_eq_of_settled outcome] at ends
      cases ends
    | failed raised =>
      rw [iterate_eq_of_failed outcome] at ends
      cases ends
      exact Or.inr ⟨state, outcome⟩
    | next later =>
      rw [iterate_eq_of_next outcome] at ends
      exact ih ends

end Iterate

/-! ### Rounds that are reached -/

/-- **The states of an iteration** after so many rounds that went on. -/
inductive Iterated {σ ε α : Type} (step : σ → Step σ ε α) (start : σ) : Nat → σ → Prop where
  | start : Iterated step start 0 start
  | next {n : Nat} {state later : σ} (iterated : Iterated step start n state)
      (goesOn : step state = .next later) : Iterated step start (n + 1) later

section Iterated

variable {σ ε α : Type} {step : σ → Step σ ε α} {exhausted : ε} {start state : σ} {n : Nat}

/-- What is left of an iteration when some of its rounds went on. -/
theorem iterate_of_iterated (iterated : Iterated step start n state) (rounds : Nat) :
    iterate step exhausted (n + rounds) start = iterate step exhausted rounds state := by
  induction iterated generalizing rounds with
  | start => rw [Nat.zero_add]
  | next earlier goesOn ih =>
    rw [Nat.add_assoc, Nat.add_comm 1 rounds, ih, iterate_eq_of_next goesOn]

/-- **The first round that fails ends the iteration**, unless its rounds were used up before. -/
theorem iterate_of_iterated_failed {cause : ε} {rounds : Nat}
    (iterated : Iterated step start n state) (within : n < rounds)
    (fails : step state = .failed cause) : iterate step exhausted rounds start = .error cause := by
  obtain ⟨left, rfl⟩ := Nat.exists_eq_add_of_lt within
  rw [Nat.add_assoc, iterate_of_iterated iterated, iterate_eq_of_failed fails]

/-- **An answer was settled on in a round that was reached** before all were used up. -/
theorem iterated_of_iterate {answer : α} {rounds : Nat}
    (ends : iterate step exhausted rounds start = .ok answer) :
    ∃ n < rounds, ∃ state, Iterated step start n state ∧ step state = .settled answer := by
  have reached (left : Nat) : ∀ {n : Nat} {state : σ}, Iterated step start n state →
      iterate step exhausted left state = .ok answer →
      ∃ m < n + left, ∃ last, Iterated step start m last ∧ step last = .settled answer := by
    induction left with
    | zero =>
      intro n state _ ends
      rw [iterate_zero] at ends
      cases ends
    | succ left ih =>
      intro n state iterated ends
      cases outcome : step state with
      | settled found =>
        rw [iterate_eq_of_settled outcome] at ends
        cases ends
        exact ⟨n, by omega, state, iterated, outcome⟩
      | failed cause =>
        rw [iterate_eq_of_failed outcome] at ends
        cases ends
      | next later =>
        rw [iterate_eq_of_next outcome] at ends
        obtain ⟨m, within, last, settled⟩ := ih (iterated.next outcome) ends
        exact ⟨m, by omega, last, settled⟩
  obtain ⟨m, within, last, settled⟩ := reached rounds .start ends
  exact ⟨m, by omega, last, settled⟩

end Iterated

/-! ### Renamed failures -/

section Renaming

variable {σ ε δ α : Type} (rename : ε → δ)

/-- A round whose failure is renamed. -/
def Step.mapFailed : Step σ ε α → Step σ δ α
  | .settled answer => .settled answer
  | .failed cause => .failed (rename cause)
  | .next state => .next state

/-- **Renaming the failure of every round** is renaming that of the iteration. -/
theorem iterate_mapFailed {step : σ → Step σ ε α} {renamed : σ → Step σ δ α}
    (same : ∀ state, renamed state = (step state).mapFailed rename) (exhausted : ε) (rounds : Nat)
    (state : σ) : iterate renamed (rename exhausted) rounds state =
      (iterate step exhausted rounds state).mapError rename := by
  induction rounds generalizing state with
  | zero => rfl
  | succ rounds ih =>
    have first := same state
    cases outcome : step state with
    | settled found =>
      rw [outcome] at first
      rw [iterate_eq_of_settled outcome, iterate_eq_of_settled first]
      rfl
    | failed raised =>
      rw [outcome] at first
      rw [iterate_eq_of_failed outcome, iterate_eq_of_failed first]
      rfl
    | next later =>
      rw [outcome] at first
      rw [iterate_eq_of_next outcome, iterate_eq_of_next first, ih]

end Renaming

end IncompleteBeta
