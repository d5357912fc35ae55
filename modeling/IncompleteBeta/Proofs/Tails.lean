/-
**When tails are probabilities.**

One tail is a product that nothing bounds, and the other is one minus it. Whether they come out in
the unit interval is up to the exact product of the two factors:

* `isFinite_prefactor`, `isFinite_classicalFraction`, `isFinite_scaledFraction`: prefactors and
  fractions are finite;
* `Route.InRange`: the exact product of two factors is small enough, and not too far below 0;
* `inUnit_on_iff`: this decides about either tail of a route;
* **`inUnit_tail_iff`**: and so about every tail that is found;
* `isFinite_tail`: a tail that is found is finite, unless the product of its factors overflows.
-/

import IncompleteBeta.Proofs.Binary64.Overflow
import IncompleteBeta.Proofs.Failure
import IncompleteBeta.Proofs.Iteration

namespace IncompleteBeta

open Binary64 (InUnit value inUnit_zero inUnit_one inUnit_mul_iff inUnit_complement_mul_iff
  isFinite_of_mul isFinite_of_complement isFinite_complement)

section Elementary

variable [Elementary]

/-! ### Factors are finite -/

section Factors

variable {a b x y lnBeta driving factor fraction : Float}

theorem isFinite_prefactor (found : prefactor a b x y lnBeta = .ok factor) :
    factor.isFinite = true := by
  unfold prefactor at found
  dsimp only at found
  split at found
  next finite =>
    cases found
    exact finite
  next => cases found

omit [Elementary] in
/-- A round that fails where its value is not finite settles on finite values only. -/
theorem isFinite_of_settled {σ : Type} {later : σ} {value answer : Float} {cause : Cause}
    {close : Prop} [Decidable close]
    (settles : (if !value.isFinite then .failed cause
      else if close then .settled value else .next later : Step σ Cause Float) =
        .settled answer) : answer.isFinite = true := by
  by_cases finite : value.isFinite = true
  · simp only [finite, Bool.not_true, Bool.false_eq_true, if_false] at settles
    split at settles
    · cases settles
      exact finite
    · cases settles
  · simp only [finite, Bool.not_false, if_true] at settles
    cases settles

omit [Elementary] in
theorem isFinite_classicalFraction (found : classicalFraction a b x y = .ok fraction) :
    fraction.isFinite = true := by
  obtain ⟨last, _, settles⟩ := iterate_eq_ok (P := fun _ => True) (fun _ _ => trivial) _ trivial
    found
  exact isFinite_of_settled settles

omit [Elementary] in
theorem isFinite_scaledFraction (found : scaledFraction a b x y driving = .ok fraction) :
    fraction.isFinite = true := by
  obtain ⟨last, _, settles⟩ := iterate_eq_ok (P := fun _ => True) (fun _ _ => trivial) _ trivial
    found
  exact isFinite_of_settled settles

/-- The fraction among the factors of a route is finite. -/
theorem isFinite_fraction {route : Route} {factors : Factors}
    (found : route.factors a b x y lnBeta = .ok factors) : factors.fraction.isFinite = true := by
  obtain ⟨factor, _, found⟩ := bind_eq_ok.mp found
  cases route with
  | scaled side driving =>
    obtain ⟨fraction, fraction_eq, found⟩ := bind_eq_ok.mp found
    cases found
    exact isFinite_scaledFraction fraction_eq
  | classical side =>
    obtain ⟨fraction, fraction_eq, found⟩ := bind_eq_ok.mp found
    cases found
    exact isFinite_classicalFraction fraction_eq

theorem isFinite_fraction_at {route : Route} {factors : Factors}
    (found : route.factorsAt a b x lnBeta = .ok factors) : factors.fraction.isFinite = true := by
  unfold Route.factorsAt at found
  cases side : route.side with
  | lower =>
    rw [side] at found
    exact isFinite_fraction found
  | upper =>
    rw [side] at found
    exact isFinite_fraction found

end Factors

/-! ### Ranges -/

attribute [local instance] Binary64.atLeastTwo_two in
/-- How far below 0 the exact product of the factors may be for the tail on a side: the direct tail
is the product rounded, and the other one is one minus that, rounded again. -/
noncomputable def Route.least (route : Route) (side : Side) : ℝ :=
  if side = route.side then -2 ^ (-1075 : ℤ) else -(2 ^ (-53 : ℤ) + 2 ^ (-106 : ℤ))

/-- **The exact product of the factors is in range** for the tail on a side. -/
structure Route.InRange (route : Route) (side : Side) (factors : Factors) : Prop where
  finite : factors.scale.isFinite = true
  least_le : route.least side ≤ value factors.scale * value factors.fraction
  le_most : value factors.scale * value factors.fraction ≤ 1 + 2 ^ (-53 : ℤ)

omit [Elementary] in
theorem inRange_iff (route : Route) (side : Side) (factors : Factors) :
    route.InRange side factors ↔ factors.scale.isFinite = true ∧
      route.least side ≤ value factors.scale * value factors.fraction ∧
      value factors.scale * value factors.fraction ≤ 1 + 2 ^ (-53 : ℤ) :=
  ⟨fun range => ⟨range.finite, range.least_le, range.le_most⟩,
    fun ⟨finite, above, below⟩ => ⟨finite, above, below⟩⟩

omit [Elementary] in
/-- **Either tail of a route is in the unit interval** exactly if the product of the factors is in
range for it. -/
theorem inUnit_on_iff (route : Route) (side : Side) {factors : Factors}
    (finite : factors.fraction.isFinite = true) :
    InUnit ((Tails.ofDirect route.side factors.product).on side) ↔
      route.InRange side factors := by
  rw [inRange_iff]
  by_cases direct : side = route.side
  · have tail : (Tails.ofDirect route.side factors.product).on side =
        factors.scale * factors.fraction := by
      rw [direct]
      cases route.side <;> rfl
    rw [tail, Route.least, if_pos direct]
    constructor
    · intro unit
      have productFinite := isFinite_of_mul unit.isFinite
      exact ⟨productFinite, (inUnit_mul_iff productFinite finite).mp unit⟩
    · rintro ⟨productFinite, range⟩
      exact (inUnit_mul_iff productFinite finite).mpr range
  · have tail : (Tails.ofDirect route.side factors.product).on side =
        1.0 - factors.scale * factors.fraction := by
      cases side <;> cases same : route.side <;> first | rfl | exact absurd same.symm direct
    rw [tail, Route.least, if_neg direct]
    constructor
    · intro unit
      have productFinite := isFinite_of_mul (isFinite_of_complement unit.isFinite)
      exact ⟨productFinite, (inUnit_complement_mul_iff productFinite finite).mp unit⟩
    · rintro ⟨productFinite, range⟩
      exact (inUnit_complement_mul_iff productFinite finite).mpr range

/-! ### Tails -/

/-- The tail on a side, for any arguments. -/
def tailOn : Side → Float → Float → Float → Except Failure Float
  | .lower => lowerTail
  | .upper => upperTail

/-- The point is an end of the unit interval, or the factors of the route are in range. -/
def TailInRange (side : Side) (a b x : Float) : Prop :=
  x ≤ 0.0 ∨ 1.0 ≤ x ∨ ∃ factors, (route a b x).factorsAt a b x (logBeta a b) = .ok factors ∧
    (route a b x).InRange side factors

theorem tailOn_eq_ok {side : Side} {a b x tail : Float} (found : tailOn side a b x = .ok tail) :
    ∃ both, tails a b x (logBeta a b) = .ok both ∧ both.on side = tail := by
  have checked : ∃ both, checkedTails a b x = .ok both ∧ both.on side = tail := by
    cases side with
    | lower => exact map_eq_ok.mp (attributeTo_eq_ok.mp found)
    | upper => exact map_eq_ok.mp (attributeTo_eq_ok.mp found)
  obtain ⟨both, checked, on_eq⟩ := checked
  obtain ⟨_, _, _, found⟩ := checked_eq_ok.mp checked
  exact ⟨both, found, on_eq⟩

/-- A point is an end of the unit interval, where the tails are known, or has the factors of the
direct tail. -/
theorem tails_of_ends_or_factors {a b x lnBeta : Float} {both : Tails}
    (found : tails a b x lnBeta = .ok both) :
    (x ≤ 0.0 ∧ both = ⟨0.0, 1.0⟩) ∨ (¬x ≤ 0.0 ∧ 1.0 ≤ x ∧ both = ⟨1.0, 0.0⟩) ∨
      ¬x ≤ 0.0 ∧ ¬1.0 ≤ x ∧ ∃ factors, (route a b x).factorsAt a b x lnBeta = .ok factors ∧
        both = .ofDirect (route a b x).side factors.product := by
  unfold tails at found
  by_cases low : x ≤ 0.0
  · rw [if_pos low] at found
    exact Or.inl ⟨low, (Except.ok.inj found).symm⟩
  rw [if_neg low] at found
  by_cases high : 1.0 ≤ x
  · rw [if_pos high] at found
    exact Or.inr (Or.inl ⟨low, high, (Except.ok.inj found).symm⟩)
  rw [if_neg high] at found
  obtain ⟨factors, factors_eq, direct⟩ := bind_eq_ok.mp found
  exact Or.inr (Or.inr ⟨low, high, factors, factors_eq, (Except.ok.inj direct).symm⟩)

/-- **A tail that is found is in the unit interval** exactly if the point is an end of it or the
factors of the direct tail are in range. -/
theorem inUnit_tail_iff (side : Side) {a b x tail : Float} (found : tailOn side a b x = .ok tail) :
    InUnit tail ↔ TailInRange side a b x := by
  obtain ⟨both, tails_eq, rfl⟩ := tailOn_eq_ok found
  rcases tails_of_ends_or_factors tails_eq with
    ⟨low, rfl⟩ | ⟨_, high, rfl⟩ | ⟨low, high, factors, factors_eq, rfl⟩
  · refine iff_of_true ?_ (Or.inl low)
    cases side with
    | lower => exact inUnit_zero
    | upper => exact inUnit_one
  · refine iff_of_true ?_ (Or.inr (Or.inl high))
    cases side with
    | lower => exact inUnit_one
    | upper => exact inUnit_zero
  rw [inUnit_on_iff _ side (isFinite_fraction_at factors_eq)]
  constructor
  · intro range
    exact Or.inr (Or.inr ⟨factors, factors_eq, range⟩)
  · rintro (below | above | ⟨otherFactors, other_factors_eq, range⟩)
    · exact absurd below low
    · exact absurd above high
    · rw [factors_eq] at other_factors_eq
      cases other_factors_eq
      exact range

/-- The direct tail at a point is out of the range of doubles: the product of its factors is not
finite, though each fraction is. -/
def TailOverflows (a b x : Float) : Prop :=
  ∃ factors, (route a b x).factorsAt a b x (logBeta a b) = .ok factors ∧
    factors.fraction.isFinite = true ∧ factors.product.isFinite = false

/-- **A tail that is found is finite**, unless the product of the factors overflows. -/
theorem isFinite_tail (side : Side) {a b x tail : Float} (found : tailOn side a b x = .ok tail)
    (infinite : tail.isFinite = false) : TailOverflows a b x := by
  obtain ⟨both, tails_eq, rfl⟩ := tailOn_eq_ok found
  rcases tails_of_ends_or_factors tails_eq with
    ⟨_, rfl⟩ | ⟨_, _, rfl⟩ | ⟨_, _, factors, factors_eq, rfl⟩
  · cases side <;> cases infinite
  · cases side <;> cases infinite
  · refine ⟨factors, factors_eq, isFinite_fraction_at factors_eq, ?_⟩
    rw [Bool.eq_false_iff] at infinite ⊢
    intro finite
    refine infinite ?_
    cases side <;> cases (route a b x).side <;>
      first
        | exact finite
        | exact isFinite_complement finite

end Elementary

/-- At an ordinary point the lower tail is in the unit interval, and so are its factors. -/
theorem inUnit_tail_ordinary :
    ∃ tail, tailOn .lower 2.0 3.0 0.25 = .ok tail ∧
      (InUnit tail ↔ TailInRange .lower 2.0 3.0 0.25) := by
  have found : tailOn .lower 2.0 3.0 0.25 = .ok 0.26171874999999928 :=
    eq_ok_of_toOption (by decide +kernel)
  exact ⟨_, found, inUnit_tail_iff .lower found⟩

/-- For a shape whose reciprocal is out of range the logarithm of the prefactor is rounded by more
than the tail can take: the lower tail comes out far above 1, and the upper one below 0. -/
theorem tails_out_of_range :
    (∃ tail, tailOn .lower 5e-324 2.0 0.25 = .ok tail ∧ 1.0 < tail) ∧
      ∃ tail, tailOn .upper 5e-324 2.0 0.25 = .ok tail ∧ tail < 0.0 := by
  have lower : tailOn .lower 5e-324 2.0 0.25 = .ok 1.7777777777777777 :=
    eq_ok_of_toOption (by decide +kernel)
  have upper : tailOn .upper 5e-324 2.0 0.25 = .ok (-0.7777777777777777) :=
    eq_ok_of_toOption (by decide +kernel)
  exact ⟨⟨_, lower, by decide +kernel⟩, _, upper, by decide +kernel⟩

end IncompleteBeta
