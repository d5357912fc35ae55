/-
**Points that come out as zero.**

An inverse is asked for a probability above 0, so zero is not a point with that lower tail. It
stands for a root below the normal range; but the search takes any next point below the normal range
for such a root, and that says little about the tails:

* `tailOn_of_finds`: what a search finds is what the evaluators of the tails give;
* `Straddles`, `Straddles.found_iff`: the ends between which the search for a lower tail came to its
  last point, and what they tell of the points before;
* `flushed_of_solve`: how a search comes out at zero;
* `last_of_solve`: how one comes out at 1;
* **`flushed_of_quantile`**: all ways in which an inverse gives zero for a probability up to a half;
* **`quantile_flushed_below_target`**: one of them starts from points in the normal range whose
  lower tail is below the probability.
-/

import IncompleteBeta.Proofs.Arguments
import IncompleteBeta.Proofs.Search
import IncompleteBeta.Proofs.Tails

namespace IncompleteBeta

open Binary64 (InUnit beq_iff beq_iff_eq_eq epsilon eq_of_value_eq half_le_complement
  inUnit_complement inUnit_iff isFinite_half isFinite_minPositive isFinite_of_le_of_le isFinite_one
  isFinite_zero le_iff le_iff_lt_or_beq le_of_lt lt_iff lt_iff_eq_lt minPositive value
  value_eq_one_of_complement value_half value_minPositive value_one value_one_sub_half_epsilon
  value_zero)

section Elementary

variable [Elementary]

open Approximations (standard)

/-! ### What a search finds -/

section Finds

variable {a b x target v : Float} {side : Side}

theorem tailOn_of_accepted (accepted : IsShape a ∧ IsShape b ∧ InUnit x) {both : Tails}
    (found : tails a b x (logBeta a b) = .ok both) :
    tailOn side a b x = .ok (both.on side) := by
  have checks : checkedTails a b x = .ok both := (checked_of_accepted accepted).trans found
  cases side with
  | lower =>
    show attributeTo _ ((checkedTails a b x).map Tails.lower) = _
    rw [checks]
    rfl
  | upper =>
    show attributeTo _ ((checkedTails a b x).map Tails.upper) = _
    rw [checks]
    rfl

/-- **What a search finds at a point is what the evaluators of the tails give there**: the root is
to the right where the lower tail is below the target, or the upper tail above it. -/
theorem tailOn_of_finds {right : Bool} (accepted : IsShape a ∧ IsShape b ∧ InUnit x)
    (finds : standard.Finds ⟨a, b, logBeta a b, side, target⟩ x right) :
    ∃ v, tailOn side a b x = .ok v ∧
      if right = decide (side = .lower) then v < target else ¬v ≤ target := by
  obtain ⟨both, found, differs, right_eq⟩ := finds
  refine ⟨both.on side, tailOn_of_accepted accepted found, ?_⟩
  have le_iff_lt : both.on side ≤ target ↔ both.on side < target := by
    rw [le_iff_lt_or_beq, or_iff_left differs]
  rw [le_iff_lt]
  unfold Search.rightOf at right_eq
  subst right_eq
  by_cases below : both.on side < target <;> simp [below]

/-- A tail below the target is found to be so. -/
theorem finds_of_tailOn (found : tailOn .lower a b x = .ok v) (below : v < target) :
    standard.Finds ⟨a, b, logBeta a b, .lower, target⟩ x true := by
  obtain ⟨both, both_eq, rfl⟩ := tailOn_eq_ok found
  refine ⟨both, both_eq, fun equal => ?_, ?_⟩
  · rw [lt_iff_eq_lt] at below
    rw [beq_iff_eq_eq, below] at equal
    cases equal
  · have below : both.on .lower < target := below
    unfold Search.rightOf
    rw [decide_eq_true below]
    rfl

end Finds

/-! ### The search for a lower tail -/

section Lower

variable {a b p : Float}

/-- The search for the point with a lower tail, which is compared up to one half. -/
def lowerSearch (a b p : Float) : Search := ⟨a, b, logBeta a b, .lower, p⟩

def lowerStart (a b p : Float) : Bracket := .start (firstGuess a b p (1.0 - p))

/-- The points that the search for a lower tail evaluates. -/
def Evaluates (a b p x : Float) : Prop := standard.Visits (lowerSearch a b p) (lowerStart a b p) x

/-- **The ends between which the search for a lower tail came to its last point**: they are the ends
of the unit interval, or points with a lower tail below the target and one that is not. -/
structure Straddles (a b p : Float) (ends : Bracket) : Prop where
  inside : ends.Inside
  ordered : ends.low ≤ ends.high
  low : ends.low = 0.0 ∨
    Evaluates a b p ends.low ∧ ∃ v, lowerTail a b ends.low = .ok v ∧ v < p
  high : ends.high = 1.0 ∨
    Evaluates a b p ends.high ∧ ∃ v, lowerTail a b ends.high = .ok v ∧ ¬v ≤ p

theorem tails_of_nonpos {x lnBeta : Float} (low : x ≤ 0.0) : tails a b x lnBeta = .ok ⟨0.0, 1.0⟩ :=
  if_pos low

theorem tails_of_one (lnBeta : Float) : tails a b 1.0 lnBeta = .ok ⟨1.0, 0.0⟩ := by
  unfold tails
  rw [if_neg (by decide +kernel), if_pos (by decide +kernel)]

omit [Elementary] in
theorem eq_one_of_value {x : Float} (unit : InUnit x) (one : value x = 1) : x = 1.0 :=
  eq_of_value_eq unit.isFinite isFinite_one (by rw [one]; norm_num) (by rw [one, value_one])

omit [Elementary] in
theorem inUnit_of_half (positive : 0.0 < p) (half : p ≤ 0.5) :
    InUnit p ∧ 0 < value p ∧ value p ≤ 1 / 2 := by
  have finite := isFinite_of_le_of_le isFinite_zero isFinite_half (le_of_lt positive) half
  rw [lt_iff isFinite_zero finite, value_zero] at positive
  rw [le_iff finite isFinite_half, value_half] at half
  exact ⟨inUnit_iff.mpr ⟨finite, positive.le, by linarith⟩, positive, half⟩

/-- Up to one half it is the lower tail that is compared. -/
theorem search_eq_lowerSearch (positive : 0.0 < p) (half : p ≤ 0.5) :
    standard.search a b p (1.0 - p) = lowerSearch a b p := by
  obtain ⟨unit, _, below⟩ := inUnit_of_half positive half
  have large := half_le_complement unit half
  have finite := (inUnit_complement unit).isFinite
  have le : p ≤ 1.0 - p := by
    rw [le_iff isFinite_half finite, value_half] at large
    rw [le_iff unit.isFinite finite]
    linarith
  unfold Approximations.search
  rw [if_pos le, if_pos le]
  rfl

theorem straddles_of_backed {ends : Bracket} (accepted : IsShape a ∧ IsShape b)
    (inside : ends.Inside) (le : value ends.low ≤ value ends.high)
    (backed : standard.Backed (lowerSearch a b p) (lowerStart a b p) ends) :
    Straddles a b p ends where
  inside := inside
  ordered := (le_iff inside.low.isFinite inside.high.isFinite).mpr le
  low := by
    rcases backed.low with first | ⟨visits, finds⟩
    · exact Or.inl first
    · exact Or.inr ⟨visits, tailOn_of_finds ⟨accepted.1, accepted.2, inside.low⟩ finds⟩
  high := by
    rcases backed.high with first | ⟨visits, finds⟩
    · exact Or.inl first
    · exact Or.inr ⟨visits, tailOn_of_finds ⟨accepted.1, accepted.2, inside.high⟩ finds⟩

/-- **What the search found in the normal range, its last ends tell**, if the lower one is the
greatest point that it found to have a lower tail below the target. -/
theorem Straddles.found_iff {ends : Bracket} {proposal : Float} (straddles : Straddles a b p ends)
    (tiny : ends.Tiny proposal)
    (most : ∀ y v, Evaluates a b p y → lowerTail a b y = .ok v → v < p → y ≤ ends.low) :
    (∃ x v, Evaluates a b p x ∧ minPositive ≤ x ∧ lowerTail a b x = .ok v ∧ v < p) ↔
      minPositive ≤ ends.low ∧ (ends.low * ends.high == 0.0) = true := by
  have finite := straddles.inside.low.isFinite
  constructor
  · rintro ⟨x, v, visits, normal, found, less⟩
    have le := most x v visits found less
    have pointFinite := isFinite_of_le_of_le isFinite_minPositive finite normal le
    rw [le_iff isFinite_minPositive pointFinite] at normal
    rw [le_iff pointFinite finite] at le
    have normal : minPositive ≤ ends.low :=
      (le_iff isFinite_minPositive finite).mpr (normal.trans le)
    exact ⟨normal, tiny.vanishes straddles.inside
      ((le_iff finite straddles.inside.high.isFinite).mp straddles.ordered) normal⟩
  · rintro ⟨normal, _⟩
    rcases straddles.low with first | ⟨visits, v, found, less⟩
    · rw [first] at normal
      exact absurd normal (by decide +kernel)
    · exact ⟨ends.low, v, visits, normal, found, less⟩

/-- What a search settles on, it settles on in the last of the brackets that it comes to. -/
theorem reached_of_solve {q guess x : Float} (solves : standard.solve a b p q guess = .ok x) :
    ∃ last, standard.Reaches (standard.search a b p q) (.start guess) last ∧
      standard.Settles (standard.search a b p q) last x ∧
      ∀ later, ¬standard.Moves (standard.search a b p q) last later := by
  obtain ⟨last, reaches, settles⟩ := iterate_eq_ok
    (P := standard.Reaches (standard.search a b p q) (.start guess))
    (fun reaches moves => reaches.tail moves) searchRounds .refl solves
  refine ⟨last, reaches, Approximations.settles_of_round settles, fun later moves => ?_⟩
  rw [show standard.round _ last = .next later from moves] at settles
  cases settles

/-- **A search for a lower tail comes out at zero only below the normal range**, and then its lower
end is above every point that it found to have a lower tail below the target. -/
theorem flushed_of_solve {x : Float} (accepted : IsShape a ∧ IsShape b) (positive : 0.0 < p)
    (half : p ≤ 0.5) (solves : standard.solve a b p (1.0 - p) (firstGuess a b p (1.0 - p)) = .ok x)
    (zero : value x = 0) :
    x = 0.0 ∧ ∃ ends proposal, Straddles a b p ends ∧ ends.Tiny proposal ∧
      ∀ y v, Evaluates a b p y → lowerTail a b y = .ok v → v < p → y ≤ ends.low := by
  obtain ⟨unit, above, below⟩ := inUnit_of_half positive half
  obtain ⟨last, reaches, settles, ended⟩ := reached_of_solve solves
  rw [search_eq_lowerSearch positive half] at reaches settles ended
  have ordered := Approximations.ordered_reaches (ordered_start _) reaches
  have normal_pos : 0 < value minPositive := by
    rw [value_minPositive]
    positivity
  cases settles with
  | hit both found equal =>
    -- The lower tail at 0 is 0, which is not the target.
    have low : last.point ≤ 0.0 := by
      rw [le_iff ordered.inside.point.isFinite isFinite_zero, value_zero, zero]
    have found : tails a b last.point (logBeta a b) = .ok both := found
    rw [tails_of_nonpos low] at found
    cases found
    have equal : ((0.0 : Float) == p) = true := equal
    rw [beq_iff isFinite_zero unit.isFinite, value_zero] at equal
    exact absurd equal above.ne
  | close right proposal finds normal =>
    have chosen := (ordered.inside.narrow right).choose proposal
    rw [lt_iff chosen.isFinite isFinite_minPositive, zero] at normal
    exact absurd normal_pos normal
  | flushed right proposal finds tiny =>
    have inside := ordered.inside.narrow right
    have narrowed := (Approximations.backed_reaches reaches).narrow ⟨last, reaches, rfl⟩ finds
    refine ⟨rfl, last.narrow right, proposal,
      straddles_of_backed accepted inside (ordered.narrow right).2 narrowed,
      tiny_of_choose inside tiny, ?_⟩
    rintro y v ⟨bracket, otherReaches, rfl⟩ found less
    have earlier := Approximations.ordered_reaches (ordered_start _) otherReaches
    rw [le_iff earlier.inside.point.isFinite inside.low.isFinite]
    exact Approximations.point_le_low (ordered_start _) otherReaches (finds_of_tailOn found less)
      reaches ended finds

end Lower

/-! ### The search for an upper tail -/

section Upper

variable {a b p : Float}

/-- What the search of the reflected problem compares: the upper tail with the probability, or the
lower tail with the complement, where that is not the greater one. -/
inductive Compares (p : Float) : Side → Float → Prop where
  | upper : Compares p .upper p
  | lower (le : 1.0 - p ≤ p) : Compares p .lower (1.0 - p)

theorem search_reflected (a b p : Float) : ∃ side target, Compares p side target ∧
    standard.search a b (1.0 - p) p = ⟨a, b, logBeta a b, side, target⟩ := by
  unfold Approximations.search
  by_cases le : 1.0 - p ≤ p
  · rw [if_pos le, if_pos le]
    exact ⟨_, _, .lower le, rfl⟩
  · rw [if_neg le, if_neg le]
    exact ⟨_, _, .upper, rfl⟩

section Compared

variable {side : Side} {target : Float} (compares : Compares p side target) (positive : 0.0 < p)
  (half : p ≤ 0.5)
include compares positive half

omit [Elementary] in
theorem Compares.between : InUnit target ∧ 0 < value target ∧ value target < 1 := by
  obtain ⟨unit, above, below⟩ := inUnit_of_half positive half
  cases compares with
  | upper => exact ⟨unit, above, by linarith⟩
  | lower le =>
    have complementUnit := inUnit_complement unit
    have large := half_le_complement unit half
    rw [le_iff isFinite_half complementUnit.isFinite, value_half] at large
    rw [le_iff complementUnit.isFinite unit.isFinite] at le
    exact ⟨complementUnit, by linarith, by linarith⟩

omit [Elementary] in
/-- At 1 the tails are 1 and 0, and neither is compared with itself. -/
theorem Compares.not_hit_one : ¬((Tails.mk 1.0 0.0).on side == target) = true := by
  obtain ⟨unit, above, below⟩ := compares.between positive half
  intro equal
  cases side with
  | lower =>
    have equal : ((1.0 : Float) == target) = true := equal
    rw [beq_iff isFinite_one unit.isFinite, value_one] at equal
    linarith
  | upper =>
    have equal : ((0.0 : Float) == target) = true := equal
    rw [beq_iff isFinite_zero unit.isFinite, value_zero] at equal
    linarith

end Compared

/-- **A search comes out at 1 only from the last double below 1**, which it found left of the
root. -/
theorem last_of_solve {guess y : Float} (accepted : IsShape a ∧ IsShape b) (positive : 0.0 < p)
    (half : p ≤ 0.5) (solves : standard.solve a b (1.0 - p) p guess = .ok y) (one : value y = 1) :
    ∃ low, 1.0 - epsilon / 2.0 ≤ low ∧ ((∃ v, upperTail a b low = .ok v ∧ ¬v ≤ p) ∨
      1.0 - p ≤ p ∧ ∃ v, lowerTail a b low = .ok v ∧ v < 1.0 - p) := by
  obtain ⟨side, target, compares, search_eq⟩ := search_reflected a b p
  obtain ⟨last, reaches, settles, ended⟩ := reached_of_solve solves
  rw [search_eq] at reaches settles
  have ordered := Approximations.ordered_reaches (ordered_start _) reaches
  cases settles with
  | hit both found equal =>
    have point_eq := eq_one_of_value ordered.inside.point one
    have found : tails a b last.point (logBeta a b) = .ok both := found
    rw [point_eq, tails_of_one] at found
    cases found
    exact absurd equal (compares.not_hit_one positive half)
  | flushed right proposal finds tiny =>
    rw [value_zero] at one
    norm_num at one
  | close right proposal finds normal =>
    have inside := ordered.inside.narrow right
    have least := last_of_choose inside one
    have narrowed := (Approximations.backed_reaches reaches).narrow ⟨last, reaches, rfl⟩ finds
    -- The first lower end is too far from 1, so this one was evaluated.
    have finds_low : standard.Finds ⟨a, b, logBeta a b, side, target⟩ (last.narrow right).low
        true := by
      rcases narrowed.low with first | ⟨_, finds⟩
      · have first : (last.narrow right).low = 0.0 := first
        rw [first, value_zero] at least
        norm_num at least
      · exact finds
    refine ⟨(last.narrow right).low, ?_, ?_⟩
    · rw [le_iff (by decide +kernel) inside.low.isFinite, value_one_sub_half_epsilon]
      exact least
    · obtain ⟨v, found, compared⟩ :=
        tailOn_of_finds ⟨accepted.1, accepted.2, inside.low⟩ finds_low
      cases compares with
      | upper => exact Or.inl ⟨v, found, compared⟩
      | lower le => exact Or.inr ⟨le, v, found, compared⟩

end Upper

/-! ### Inverses -/

section Inverses

variable {a b p : Float} {pair : Quantile}

omit [Elementary] in
theorem one_sub_one : (1.0 : Float) - 1.0 = 0.0 := by decide +kernel

/-- An inverse comes from the search for the lower tail, or from that of the reflected problem. -/
theorem solve_of_quantile (positive : 0.0 < p) (half : p ≤ 0.5)
    (found : quantile a b p = .ok pair) : (IsShape a ∧ IsShape b) ∧
      ((∃ x, standard.solve a b p (1.0 - p) (firstGuess a b p (1.0 - p)) = .ok x ∧
        pair = ⟨x, 1.0 - x⟩) ∨
      ∃ guess y, standard.solve b a (1.0 - p) p guess = .ok y ∧ pair = ⟨1.0 - y, y⟩) := by
  obtain ⟨unit, above, below⟩ := inUnit_of_half positive half
  have complementUnit := inUnit_complement unit
  have large := half_le_complement unit half
  rw [le_iff isFinite_half complementUnit.isFinite, value_half] at large
  have found : attributeTo (.evaluator .quantile) (checked "p" a b p
      (standard.invert a b p (1.0 - p))) = .ok pair := found
  have found := attributeTo_eq_ok.mp found
  rcases accepted_or_offends "p" a b p with accepted | ⟨cause, offends⟩
  swap
  · rw [checked_of_offends offends] at found
    cases found
  rw [checked_of_accepted accepted] at found
  refine ⟨⟨accepted.1, accepted.2.1⟩, ?_⟩
  have lowest : ¬(p == 0.0) = true := by
    rw [beq_iff unit.isFinite isFinite_zero, value_zero]
    exact above.ne'
  have highest : ¬((1.0 - p) == 0.0) = true := by
    rw [beq_iff complementUnit.isFinite isFinite_zero, value_zero]
    linarith
  unfold Approximations.invert at found
  rw [if_neg lowest, if_neg highest] at found
  dsimp only at found
  have reflected {guess : Float} (found : standard.reflected a b p (1.0 - p) guess = .ok pair) :
      ∃ guess y, standard.solve b a (1.0 - p) p guess = .ok y ∧ pair = ⟨1.0 - y, y⟩ := by
    obtain ⟨y, solves, same⟩ := bind_eq_ok.mp found
    exact ⟨guess, y, solves, (Except.ok.inj same).symm⟩
  split at found
  · obtain ⟨x, solves, found⟩ := bind_eq_ok.mp found
    split at found
    · exact Or.inl ⟨x, solves, (Except.ok.inj found).symm⟩
    · exact Or.inr (reflected found)
  · exact Or.inr (reflected found)

/-- **How an inverse gives zero for a probability up to one half.** Either the search went out below
the normal range, in one of four ways, between ends whose tails are on either side of the
probability; the ends tell whether it had found a point of the normal range with a lower tail below
the probability, and then their product vanished. Or the reflected search came out at 1, from the
last double below 1. -/
theorem flushed_of_quantile (positive : 0.0 < p) (half : p ≤ 0.5)
    (found : quantile a b p = .ok pair) (zero : (pair.value == 0.0) = true) :
    pair = ⟨0.0, 1.0⟩ ∧
      ((∃ ends proposal, Straddles a b p ends ∧ ends.Tiny proposal ∧
        ((∃ x v, Evaluates a b p x ∧ minPositive ≤ x ∧ lowerTail a b x = .ok v ∧ v < p) ↔
          minPositive ≤ ends.low ∧ (ends.low * ends.high == 0.0) = true)) ∨
      ∃ low, 1.0 - epsilon / 2.0 ≤ low ∧ ((∃ v, upperTail b a low = .ok v ∧ ¬v ≤ p) ∨
        1.0 - p ≤ p ∧ ∃ v, lowerTail b a low = .ok v ∧ v < 1.0 - p)) := by
  obtain ⟨accepted, ⟨x, solves, rfl⟩ | ⟨guess, y, solves, rfl⟩⟩ :=
    solve_of_quantile positive half found
  · have unit := Approximations.inUnit_solve solves
    rw [beq_iff unit.isFinite isFinite_zero, value_zero] at zero
    obtain ⟨rfl, ends, proposal, straddles, tiny, most⟩ :=
      flushed_of_solve accepted positive half solves zero
    refine ⟨by rw [← Approximations.one_eq_complement_zero],
      Or.inl ⟨ends, proposal, straddles, tiny, straddles.found_iff tiny most⟩⟩
  · have unit := Approximations.inUnit_solve solves
    rw [beq_iff (inUnit_complement unit).isFinite isFinite_zero, value_zero] at zero
    have one := value_eq_one_of_complement unit zero
    refine ⟨?_, Or.inr (last_of_solve ⟨accepted.2, accepted.1⟩ positive half solves one)⟩
    rw [eq_one_of_value unit one, one_sub_one]

end Inverses

end Elementary

/-- The root for the shapes 3/2 and 1 is `1e-200`, between two points of the search whose product
vanishes. -/
theorem quantile_deep : quantile 1.5 1.0 1e-300 = .ok ⟨0.0, 1.0⟩ :=
  eq_ok_of_toOption (by decide +kernel)

/-- A probability far below the tails that can be told from 0 has such an inverse. -/
theorem flushed_deep : (0.0 : Float) < 1e-300 ∧ (1e-300 : Float) ≤ 0.5 ∧
    quantile 1.5 1.0 1e-300 = .ok ⟨0.0, 1.0⟩ ∧
    ((∃ ends proposal, Straddles 1.5 1.0 1e-300 ends ∧ ends.Tiny proposal ∧
      ((∃ x v, Evaluates 1.5 1.0 1e-300 x ∧ minPositive ≤ x ∧ lowerTail 1.5 1.0 x = .ok v ∧
        v < 1e-300) ↔ minPositive ≤ ends.low ∧ (ends.low * ends.high == 0.0) = true)) ∨
    ∃ low, 1.0 - epsilon / 2.0 ≤ low ∧ ((∃ v, upperTail 1.0 1.5 low = .ok v ∧ ¬v ≤ 1e-300) ∨
      1.0 - 1e-300 ≤ (1e-300 : Float) ∧
        ∃ v, lowerTail 1.0 1.5 low = .ok v ∧ v < 1.0 - 1e-300)) := by
  have positive : (0.0 : Float) < 1e-300 := by decide +kernel
  have half : (1e-300 : Float) ≤ 0.5 := by decide +kernel
  exact ⟨positive, half, quantile_deep,
    (flushed_of_quantile positive half quantile_deep (by decide +kernel)).2⟩

/-- **An inverse may be zero although the lower tail is below the probability at the smallest normal
double**, and at a normal double where the search began. -/
theorem quantile_flushed_below_target : quantile 1.5 1.0 1e-300 = .ok ⟨0.0, 1.0⟩ ∧
    (∃ v, lowerTail 1.5 1.0 minPositive = .ok v ∧ v < 1e-300) ∧
    ∃ x v, Evaluates 1.5 1.0 1e-300 x ∧ minPositive ≤ x ∧ lowerTail 1.5 1.0 x = .ok v ∧
      v < 1e-300 := by
  have least : lowerTail 1.5 1.0 minPositive = .ok 0.0 := eq_ok_of_toOption (by decide +kernel)
  have start : (lowerStart 1.5 1.0 1e-300).point = 6.253765600235998e-267 := by decide +kernel
  have first : lowerTail 1.5 1.0 6.253765600235998e-267 = .ok 0.0 :=
    eq_ok_of_toOption (by decide +kernel)
  have less : (0.0 : Float) < 1e-300 := by decide +kernel
  exact ⟨quantile_deep, ⟨0.0, least, less⟩, 6.253765600235998e-267, 0.0, ⟨_, .refl, start⟩,
    by decide +kernel, first, less⟩

end IncompleteBeta
