/-
**What every successful inverse looks like.**

Nothing is assumed of logarithms, tails, Newton steps and guesses: the search only compares what it
is given, and the points that it makes itself do not leave the unit interval.

* `Approximations.Round`: what one round of the search can come to, and when;
* `Bracket.Inside`: a bracket inside the unit interval;
* **`inUnit_solve`**: the search stays in the unit interval;
* `Approximations.Solution`: a point and its complement, one of them subtracted from 1 and a small
  complement never;
* **`shape_of_inverses`**: successful inverses give solutions, and confidence bounds stay in the
  unit interval.
-/

import IncompleteBeta.Binomial
import IncompleteBeta.Proofs.Binary64.UnitInterval
import IncompleteBeta.Proofs.Failure
import IncompleteBeta.Proofs.Iteration

namespace IncompleteBeta

open Binary64 (InUnit value epsilon minPositive inUnit_zero inUnit_one inUnit_iff inUnit_of_le
  inUnit_complement inUnit_geometric inUnit_arithmetic inUnit_eighth isFinite_of_le_of_le le_of_lt
  le_iff lt_iff isFinite_half half_le_complement abs_complement_error)

/-! ### Rounds -/

namespace Approximations

/-- **What one round can come to**: a failure of the tails, a point that hits the target, a root
below the normal range, a point that is close enough, or a narrower bracket. -/
inductive Round (approximations : Approximations) (search : Search) (bracket : Bracket) :
    Step Bracket Cause Float → Prop where
  | failed (cause : Cause)
      (fails : approximations.tails search.a search.b bracket.point search.lnBeta = .error cause) :
      Round approximations search bracket (.failed cause)
  | hit (both : Tails)
      (found : approximations.tails search.a search.b bracket.point search.lnBeta = .ok both)
      (equal : (both.on search.side == search.target) = true) :
      Round approximations search bracket (.settled bracket.point)
  | moved (both : Tails) (narrowed : Bracket) (next : Float) (outcome : Step Bracket Cause Float)
      (found : approximations.tails search.a search.b bracket.point search.lnBeta = .ok both)
      (differs : ¬ (both.on search.side == search.target) = true)
      (narrowed_eq : narrowed = bracket.narrow (search.rightOf (both.on search.side)))
      (next_eq : next = narrowed.choose
        (approximations.newton search bracket.point (both.on search.side)))
      (outcome_eq : outcome =
        if next < minPositive then .settled 0.0
        else if (next - bracket.point).abs ≤ 4.0 * epsilon * next
            || narrowed.high - narrowed.low ≤ 4.0 * epsilon * narrowed.high then .settled next
        else .next { narrowed with point := next }) :
      Round approximations search bracket outcome

theorem round_spec (approximations : Approximations) (search : Search) (bracket : Bracket) :
    Round approximations search bracket (approximations.round search bracket) := by
  unfold round
  cases found : approximations.tails search.a search.b bracket.point search.lnBeta with
  | error cause => exact .failed cause found
  | ok both =>
    dsimp only
    by_cases equal : (both.on search.side == search.target) = true
    · rw [if_pos equal]
      exact .hit both found equal
    · rw [if_neg equal]
      exact .moved both _ _ _ found equal rfl rfl rfl

end Approximations

/-! ### Brackets -/

/-- **A bracket inside the unit interval**, with its point. -/
structure Bracket.Inside (bracket : Bracket) : Prop where
  low : InUnit bracket.low
  high : InUnit bracket.high
  point : InUnit bracket.point

section Brackets

variable {bracket : Bracket}

/-- What lies between numbers of the unit interval lies there. -/
theorem inUnit_of_between {low x high : Float} (unit : InUnit low) (otherUnit : InUnit high)
    (above : low < x) (below : x < high) : InUnit x := by
  obtain ⟨finite, nonneg, _⟩ := inUnit_iff.mp unit
  obtain ⟨highFinite, _, le_one⟩ := inUnit_iff.mp otherUnit
  have between := isFinite_of_le_of_le finite highFinite (le_of_lt above) (le_of_lt below)
  have above := (le_iff finite between).mp (le_of_lt above)
  have below := (le_iff between highFinite).mp (le_of_lt below)
  exact inUnit_iff.mpr ⟨between, nonneg.trans above, below.trans le_one⟩

theorem inside_start (guess : Float) : (Bracket.start guess).Inside := by
  refine ⟨inUnit_zero, inUnit_one, ?_⟩
  unfold Bracket.start
  dsimp only
  split
  next between =>
    rw [Bool.and_eq_true, decide_eq_true_iff, decide_eq_true_iff] at between
    exact inUnit_of_between inUnit_zero inUnit_one between.1 between.2
  next =>
    split
    · exact inUnit_of_le (by decide +kernel) (by decide +kernel)
    · exact inUnit_of_le (by decide +kernel) (by decide +kernel)

theorem Bracket.Inside.narrow (inside : bracket.Inside) (right : Bool) :
    (bracket.narrow right).Inside := by
  unfold Bracket.narrow
  split
  · exact ⟨inside.point, inside.high, inside.point⟩
  · exact ⟨inside.low, inside.point, inside.point⟩

theorem Bracket.Inside.middle (inside : bracket.Inside) : InUnit bracket.middle := by
  unfold Bracket.middle
  split
  · exact inUnit_eighth inside.high
  · split
    · exact inUnit_geometric inside.low inside.high
    · exact inUnit_arithmetic inside.low inside.high

/-- Whatever is proposed, the next point lies in the unit interval. -/
theorem Bracket.Inside.choose (inside : bracket.Inside) (proposal : Float) :
    InUnit (bracket.choose proposal) := by
  unfold Bracket.choose
  split
  next between =>
    rw [Bool.and_eq_true, decide_eq_true_iff, decide_eq_true_iff] at between
    exact inUnit_of_between inside.low inside.high between.1 between.2
  next => exact inside.middle

end Brackets

/-! ### Searches -/

namespace Approximations

variable {approximations : Approximations} {search : Search} {bracket later : Bracket} {x : Float}

/-- A round that goes on stays inside. -/
theorem inside_next (inside : bracket.Inside)
    (goesOn : approximations.round search bracket = .next later) : later.Inside := by
  have spec := round_spec approximations search bracket
  rw [goesOn] at spec
  cases spec with
  | moved both narrowed next _ found differs narrowed_eq next_eq outcome_eq =>
    have narrower : narrowed.Inside := narrowed_eq ▸ inside.narrow _
    have nextInUnit : InUnit next := next_eq ▸ narrower.choose _
    split at outcome_eq
    · cases outcome_eq
    · split at outcome_eq
      · cases outcome_eq
      · cases outcome_eq
        exact ⟨narrower.low, narrower.high, nextInUnit⟩

/-- A round that settles does so inside. -/
theorem inUnit_settled (inside : bracket.Inside)
    (settles : approximations.round search bracket = .settled x) : InUnit x := by
  have spec := round_spec approximations search bracket
  rw [settles] at spec
  cases spec with
  | hit both found equal => exact inside.point
  | moved both narrowed next _ found differs narrowed_eq next_eq outcome_eq =>
    have narrower : narrowed.Inside := narrowed_eq ▸ inside.narrow _
    have nextInUnit : InUnit next := next_eq ▸ narrower.choose _
    split at outcome_eq
    · cases outcome_eq
      exact inUnit_zero
    · split at outcome_eq
      · cases outcome_eq
        exact nextInUnit
      · cases outcome_eq

/-- **The search stays in the unit interval.** -/
theorem inUnit_solve {a b p q guess : Float}
    (solves : approximations.solve a b p q guess = .ok x) : InUnit x := by
  obtain ⟨last, inside, settles⟩ :=
    iterate_eq_ok inside_next searchRounds (inside_start guess) solves
  exact inUnit_settled inside settles

/-! ### Solutions -/

/-- **A solution**: a point and its complement in the unit interval, one of them 1 minus the other,
and a complement below one half the root of the reflected problem itself. -/
structure Solution (approximations : Approximations) (a b p q : Float) (pair : Quantile) :
    Prop where
  value_inUnit : InUnit pair.value
  complement_inUnit : InUnit pair.complement
  subtracted : pair.complement = 1.0 - pair.value ∨ pair.value = 1.0 - pair.complement
  sum : |value pair.value + value pair.complement - 1| ≤ 2 ^ (-54 : ℤ)
  reflected : pair.complement < 0.5 → (q == 0.0) = true ∧ pair = ⟨1.0, 0.0⟩ ∨
    ∃ guess, approximations.solve b a q p guess = .ok pair.complement ∧
      pair.value = 1.0 - pair.complement

section Solutions

variable {a b p q guess : Float} {pair : Quantile}

/-- A point up to one half is a solution with its complement. -/
theorem solution_of_value (unit : InUnit x) (low : x ≤ 0.5) :
    approximations.Solution a b p q ⟨x, 1.0 - x⟩ where
  value_inUnit := unit
  complement_inUnit := inUnit_complement unit
  subtracted := Or.inl rfl
  sum := by
    rw [add_comm]
    exact abs_complement_error unit
  reflected small := by
    have large := half_le_complement unit low
    have finite := (inUnit_complement unit).isFinite
    rw [le_iff isFinite_half finite] at large
    rw [lt_iff finite isFinite_half] at small
    exact absurd small (not_lt.mpr large)

/-- A root of the reflected problem is a solution as the complement. -/
theorem solution_of_reflected (found : approximations.reflected a b p q guess = .ok pair) :
    approximations.Solution a b p q pair := by
  obtain ⟨root, solves, found⟩ := bind_eq_ok.mp found
  cases found
  have unit := inUnit_solve solves
  exact ⟨inUnit_complement unit, unit, Or.inr rfl, abs_complement_error unit,
    fun _ => Or.inr ⟨guess, solves, rfl⟩⟩

/-- The complements of the ends of the unit interval are exact. -/
theorem one_eq_complement_zero : (1.0 : Float) = 1.0 - 0.0 := by decide +kernel

/-- **Inverses are solutions**, whichever way they are found. -/
theorem solution_of_invert (found : approximations.invert a b p q = .ok pair) :
    approximations.Solution a b p q pair := by
  unfold invert at found
  by_cases lowest : (p == 0.0) = true
  · rw [if_pos lowest] at found
    cases found
    rw [one_eq_complement_zero]
    exact solution_of_value inUnit_zero (by decide +kernel)
  rw [if_neg lowest] at found
  by_cases highest : (q == 0.0) = true
  · rw [if_pos highest] at found
    cases found
    exact ⟨inUnit_one, inUnit_zero, Or.inr one_eq_complement_zero,
      one_eq_complement_zero ▸ abs_complement_error inUnit_zero,
      fun _ => Or.inl ⟨highest, rfl⟩⟩
  rw [if_neg highest] at found
  dsimp only at found
  split at found
  · obtain ⟨root, solves, found⟩ := bind_eq_ok.mp found
    split at found
    next low =>
      cases found
      exact solution_of_value (inUnit_solve solves) low
    next => exact solution_of_reflected found
  · exact solution_of_reflected found

theorem solution_of_quantile (found : approximations.quantile a b p = .ok pair) :
    approximations.Solution a b p (1.0 - p) pair := by
  obtain ⟨_, _, _, found⟩ := checked_eq_ok.mp (attributeTo_eq_ok.mp found)
  exact solution_of_invert found

theorem solution_of_upperQuantile (found : approximations.upperQuantile a b q = .ok pair) :
    approximations.Solution a b (1.0 - q) q pair := by
  obtain ⟨_, _, _, found⟩ := checked_eq_ok.mp (attributeTo_eq_ok.mp found)
  exact solution_of_invert found

end Solutions

/-! ### Confidence bounds -/

section Bounds

variable {n k : UInt64} {proba bound : Float}

theorem inUnit_successUpperBound (found : approximations.successUpperBound n k proba = .ok bound) :
    InUnit bound := by
  have found := attributeTo_eq_ok.mp found
  obtain ⟨_, _, found⟩ := bind_eq_ok.mp found
  obtain ⟨_, _, found⟩ := bind_eq_ok.mp found
  split at found
  · cases found
    exact inUnit_one
  · obtain ⟨root, root_eq, found⟩ := bind_eq_ok.mp found
    cases found
    exact (solution_of_upperQuantile (causeOf_eq_ok.mp root_eq)).value_inUnit

theorem inUnit_successLowerBound (found : approximations.successLowerBound n k proba = .ok bound) :
    InUnit bound := by
  have found := attributeTo_eq_ok.mp found
  obtain ⟨_, _, found⟩ := bind_eq_ok.mp found
  obtain ⟨_, _, found⟩ := bind_eq_ok.mp found
  split at found
  · cases found
    exact inUnit_zero
  · obtain ⟨root, root_eq, found⟩ := bind_eq_ok.mp found
    cases found
    exact (solution_of_quantile (causeOf_eq_ok.mp root_eq)).value_inUnit

end Bounds

/-- **The shape of successful inverses**, by whatever approximations: they are solutions, and
confidence bounds lie in the unit interval. -/
theorem shape_of_inverses (approximations : Approximations) :
    (∀ a b p pair, approximations.quantile a b p = .ok pair →
      approximations.Solution a b p (1.0 - p) pair) ∧
    (∀ a b q pair, approximations.upperQuantile a b q = .ok pair →
      approximations.Solution a b (1.0 - q) q pair) ∧
    (∀ n k proba bound, approximations.successUpperBound n k proba = .ok bound → InUnit bound) ∧
    ∀ n k proba bound, approximations.successLowerBound n k proba = .ok bound → InUnit bound :=
  ⟨fun _ _ _ _ => solution_of_quantile, fun _ _ _ _ => solution_of_upperQuantile,
    fun _ _ _ _ => inUnit_successUpperBound, fun _ _ _ _ => inUnit_successLowerBound⟩

/-- The upper quarter of the uniform distribution: its point is found from its complement. -/
theorem shape_of_uniform_quarter :
    ∃ pair, standard.quantile 1.0 1.0 0.75 = .ok pair ∧ pair.complement < 0.5 ∧
      standard.Solution 1.0 1.0 0.75 (1.0 - 0.75) pair := by
  have found : standard.quantile 1.0 1.0 0.75 = .ok ⟨0.75, 0.24999999999999997⟩ :=
    eq_ok_of_toOption (by decide +kernel)
  exact ⟨_, found, by decide +kernel, (shape_of_inverses standard).1 1.0 1.0 0.75 _ found⟩

end Approximations

end IncompleteBeta
