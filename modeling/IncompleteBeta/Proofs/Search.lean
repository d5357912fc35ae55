/-
**Where a search has been and where it stops.**

A search goes from bracket to bracket. Whatever it goes by, its point never leaves the bracket, each
end of the bracket but the first two is a point that it has evaluated, and the lower end only rises;
so the lower end at last is above every point that was found to lie left of the root.

* `Approximations.Reaches`, `Approximations.Finds`: the brackets that a search comes to, and what it
  finds at a point;
* `Bracket.Ordered`, `Approximations.Backed`: the point lies between the ends, and evaluations speak
  for them;
* `Approximations.Settles`: the three ways to settle on a point;
* **`ordered_reaches`**, **`backed_reaches`**, **`low_reaches`**: what holds of every bracket;
* **`point_le_low`**: the lower end at last;
* `Bracket.Tiny`, **`tiny_of_choose`**: the four ways out below the normal range;
* `last_of_choose`: what is chosen is only rounded to 1 from the last double below 1 on.
-/

import IncompleteBeta.Proofs.Binary64.Middle
import IncompleteBeta.Proofs.Quantile
import Mathlib.Logic.Relation

namespace IncompleteBeta

open Binary64 (arithmetic_between beq_iff eighth_between eighth_lt_one geometric_between
  geometric_lt_one geometric_tiny_iff inUnit_arithmetic inUnit_iff isFinite_minPositive
  isFinite_zero last_of_arithmetic le_iff lt_iff minPositive sixteen_mul_lt value value_geometric
  value_minPositive value_one value_zero)

/-! ### Brackets in order -/

/-- **A bracket in order**: inside the unit interval, with its point between its ends. -/
structure Bracket.Ordered (bracket : Bracket) : Prop where
  inside : bracket.Inside
  low_le : value bracket.low ≤ value bracket.point
  le_high : value bracket.point ≤ value bracket.high

section Order

variable {bracket : Bracket}

theorem ordered_start (guess : Float) : (Bracket.start guess).Ordered := by
  have inside := inside_start guess
  obtain ⟨_, nonneg, le_one⟩ := inUnit_iff.mp inside.point
  have low : value (Bracket.start guess).low = 0 := value_zero
  have high : value (Bracket.start guess).high = 1 := value_one
  exact ⟨inside, by rwa [low], by rwa [high]⟩

/-- A narrower bracket has its ends in order, whichever of them moved. -/
theorem Bracket.Ordered.narrow (ordered : bracket.Ordered) (right : Bool) :
    value bracket.low ≤ value (bracket.narrow right).low ∧
      value (bracket.narrow right).low ≤ value (bracket.narrow right).high := by
  cases right with
  | true => exact ⟨ordered.low_le, ordered.le_high⟩
  | false => exact ⟨le_rfl, ordered.low_le⟩

/-- What a middle is: the three kinds of them. -/
theorem middle_cases (bracket : Bracket) :
    ((bracket.low == 0.0) = true ∧ bracket.middle = bracket.high / 8.0) ∨
    ((bracket.low == 0.0) = false ∧ 16.0 * bracket.low < bracket.high ∧
      bracket.middle = (bracket.low * bracket.high).sqrt) ∨
    ((bracket.low == 0.0) = false ∧ ¬16.0 * bracket.low < bracket.high ∧
      bracket.middle = 0.5 * (bracket.low + bracket.high)) := by
  unfold Bracket.middle
  by_cases none : (bracket.low == 0.0) = true
  · exact Or.inl ⟨none, if_pos none⟩
  have some : (bracket.low == 0.0) = false := Bool.not_eq_true _ ▸ none
  rw [if_neg none]
  by_cases wide : 16.0 * bracket.low < bracket.high
  · exact Or.inr (Or.inl ⟨some, wide, if_pos wide⟩)
  · exact Or.inr (Or.inr ⟨some, wide, if_neg wide⟩)

/-- What is chosen: a proposal strictly inside, or the middle. -/
theorem choose_cases (bracket : Bracket) (proposal : Float) :
    (bracket.low < proposal ∧ proposal < bracket.high ∧ bracket.choose proposal = proposal) ∨
    (¬(bracket.low < proposal ∧ proposal < bracket.high) ∧
      bracket.choose proposal = bracket.middle) := by
  unfold Bracket.choose
  by_cases between : bracket.low < proposal ∧ proposal < bracket.high
  · refine Or.inl ⟨between.1, between.2, if_pos ?_⟩
    rw [decide_eq_true between.1, decide_eq_true between.2]
    rfl
  · refine Or.inr ⟨between, if_neg ?_⟩
    rwa [Bool.and_eq_true, decide_eq_true_iff, decide_eq_true_iff]

/-- **The next point lies between the ends**, unless it is below the normal range. -/
theorem between_choose (inside : bracket.Inside) (le : value bracket.low ≤ value bracket.high)
    {proposal : Float} (normal : ¬bracket.choose proposal < minPositive) :
    value bracket.low ≤ value (bracket.choose proposal) ∧
      value (bracket.choose proposal) ≤ value bracket.high := by
  have finite := inside.low.isFinite
  have highFinite := inside.high.isFinite
  have unit := inside.choose proposal
  rcases choose_cases bracket proposal with ⟨above, below, chosen⟩ | ⟨_, chosen⟩
  · rw [chosen] at unit ⊢
    rw [lt_iff finite unit.isFinite] at above
    rw [lt_iff unit.isFinite highFinite] at below
    exact ⟨above.le, below.le⟩
  rw [chosen] at normal ⊢
  rcases middle_cases bracket with ⟨none, middle⟩ | ⟨some, wide, middle⟩ | ⟨some, narrow, middle⟩
  · rw [beq_iff finite isFinite_zero, value_zero] at none
    rw [middle, none]
    exact eighth_between inside.high
  · rw [middle] at normal ⊢
    refine geometric_between inside.low inside.high
      (sixteen_mul_lt inside.low inside.high wide) fun vanishes => ?_
    refine normal ((geometric_tiny_iff inside.low inside.high).mpr ?_)
    obtain ⟨finite_product, value_eq, _⟩ := value_geometric inside.low inside.high
    rw [beq_iff finite_product isFinite_zero, value_zero, value_eq, vanishes]
  · rw [middle]
    exact arithmetic_between inside.low inside.high le

/-- What is chosen is only rounded to 1 from the last double below 1 on. -/
theorem last_of_choose (inside : bracket.Inside) {proposal : Float}
    (one : value (bracket.choose proposal) = 1) : 1 - 2 ^ (-53 : ℤ) ≤ value bracket.low := by
  rcases choose_cases bracket proposal with ⟨above, below, chosen⟩ | ⟨_, chosen⟩
  · have between := inUnit_of_between inside.low inside.high above below
    obtain ⟨highFinite, _, le_one⟩ := inUnit_iff.mp inside.high
    rw [chosen] at one
    rw [lt_iff between.isFinite highFinite] at below
    linarith
  rw [chosen] at one
  rcases middle_cases bracket with ⟨none, middle⟩ | ⟨some, wide, middle⟩ | ⟨some, narrow, middle⟩
  · rw [middle] at one
    exact absurd one (eighth_lt_one inside.high).ne
  · rw [middle] at one
    have apart := sixteen_mul_lt inside.low inside.high wide
    exact absurd one (geometric_lt_one inside.low inside.high apart).ne
  · rw [middle] at one
    exact last_of_arithmetic inside.low inside.high one.ge

end Order

/-! ### Ways out below the normal range -/

/-- **The ways out below the normal range**, from the ends of a bracket and a proposal. -/
inductive Bracket.Tiny (bracket : Bracket) (proposal : Float) : Prop where
  /-- The proposal is inside the bracket and below the normal range itself. -/
  | proposed (above : bracket.low < proposal) (below : proposal < bracket.high)
      (tiny : proposal < minPositive)
  /-- Nothing was found left of the root yet, and the upper end is close to the normal range. -/
  | eighth (none : (bracket.low == 0.0) = true) (tiny : bracket.high / 8.0 < minPositive)
  /-- The ends are far apart, and their product vanishes. -/
  | product (some : (bracket.low == 0.0) = false) (wide : 16.0 * bracket.low < bracket.high)
      (vanishes : (bracket.low * bracket.high == 0.0) = true)
  /-- The ends are close together, and both about to leave the normal range. -/
  | halved (some : (bracket.low == 0.0) = false) (narrow : ¬16.0 * bracket.low < bracket.high)
      (tiny : 0.5 * (bracket.low + bracket.high) < minPositive)

section Ways

variable {bracket : Bracket} {proposal : Float}

/-- **A point that is chosen below the normal range is chosen in one of these ways.** -/
theorem tiny_of_choose (inside : bracket.Inside)
    (tiny : bracket.choose proposal < minPositive) : bracket.Tiny proposal := by
  rcases choose_cases bracket proposal with ⟨above, below, chosen⟩ | ⟨_, chosen⟩
  · rw [chosen] at tiny
    exact .proposed above below tiny
  rw [chosen] at tiny
  rcases middle_cases bracket with ⟨none, middle⟩ | ⟨some, wide, middle⟩ | ⟨some, narrow, middle⟩
  · rw [middle] at tiny
    exact .eighth none tiny
  · rw [middle] at tiny
    exact .product some wide ((geometric_tiny_iff inside.low inside.high).mp tiny)
  · rw [middle] at tiny
    exact .halved some narrow tiny

/-- **From a lower end in the normal range there is one way out below it**: the product of the ends
vanishes. -/
theorem Bracket.Tiny.vanishes (tiny : bracket.Tiny proposal) (inside : bracket.Inside)
    (le : value bracket.low ≤ value bracket.high) (normal : minPositive ≤ bracket.low) :
    (bracket.low * bracket.high == 0.0) = true := by
  have finite := inside.low.isFinite
  have positive : 0 < value minPositive := by
    rw [value_minPositive]
    positivity
  rw [le_iff isFinite_minPositive finite] at normal
  -- A point between the ends is above the lower one; only the product can come out below it.
  cases tiny with
  | proposed above below tiny =>
    have between := inUnit_of_between inside.low inside.high above below
    rw [lt_iff finite between.isFinite] at above
    rw [lt_iff between.isFinite isFinite_minPositive] at tiny
    linarith
  | eighth none tiny =>
    rw [beq_iff finite isFinite_zero, value_zero] at none
    linarith
  | product some wide vanishes => exact vanishes
  | halved some narrow tiny =>
    have unit := inUnit_arithmetic inside.low inside.high
    have above := (arithmetic_between inside.low inside.high le).1
    rw [lt_iff unit.isFinite isFinite_minPositive] at tiny
    linarith

end Ways

/-! ### The way of a search -/

namespace Approximations

variable (approximations : Approximations) (search : Search)

/-- One round that goes on. -/
def Moves (bracket later : Bracket) : Prop := approximations.round search bracket = .next later

/-- **The brackets that a search comes to.** -/
def Reaches : Bracket → Bracket → Prop := Relation.ReflTransGen (approximations.Moves search)

/-- **What is found at a point** that does not hit the target: whether the root is to its right. -/
def Finds (x : Float) (right : Bool) : Prop :=
  ∃ both, approximations.tails search.a search.b x search.lnBeta = .ok both ∧
    ¬(both.on search.side == search.target) = true ∧ search.rightOf (both.on search.side) = right

/-- The points that a search evaluates. -/
def Visits (start : Bracket) (x : Float) : Prop :=
  ∃ bracket, approximations.Reaches search start bracket ∧ bracket.point = x

/-- **Evaluations speak for the ends of a bracket**, unless they are the first ones. -/
structure Backed (start bracket : Bracket) : Prop where
  low : bracket.low = start.low ∨
    approximations.Visits search start bracket.low ∧ approximations.Finds search bracket.low true
  high : bracket.high = start.high ∨
    approximations.Visits search start bracket.high ∧
      approximations.Finds search bracket.high false

/-- **The ways to settle on a point**: it hits the target, or the next one is below the normal range
or close enough. -/
inductive Settles (bracket : Bracket) : Float → Prop where
  | hit (both : Tails)
      (found : approximations.tails search.a search.b bracket.point search.lnBeta = .ok both)
      (equal : (both.on search.side == search.target) = true) : Settles bracket bracket.point
  | flushed (right : Bool) (proposal : Float)
      (finds : approximations.Finds search bracket.point right)
      (tiny : (bracket.narrow right).choose proposal < minPositive) : Settles bracket 0.0
  | close (right : Bool) (proposal : Float)
      (finds : approximations.Finds search bracket.point right)
      (normal : ¬(bracket.narrow right).choose proposal < minPositive) :
      Settles bracket ((bracket.narrow right).choose proposal)

variable {approximations search} {bracket later start last : Bracket} {x : Float}

theorem Finds.unique {right otherRight : Bool} (finds : approximations.Finds search x right)
    (otherFinds : approximations.Finds search x otherRight) : right = otherRight := by
  obtain ⟨both, found, _, right_eq⟩ := finds
  obtain ⟨otherBoth, otherFound, _, other_right_eq⟩ := otherFinds
  rw [found] at otherFound
  cases otherFound
  rw [← right_eq, ← other_right_eq]

theorem settles_of_round (settles : approximations.round search bracket = .settled x) :
    approximations.Settles search bracket x := by
  have spec := round_spec approximations search bracket
  rw [settles] at spec
  cases spec with
  | hit both found equal => exact .hit both found equal
  | moved both narrowed next _ found differs narrowed_eq next_eq outcome_eq =>
    subst narrowed_eq next_eq
    split at outcome_eq
    next tiny =>
      cases outcome_eq
      exact .flushed _ _ ⟨both, found, differs, rfl⟩ tiny
    next normal =>
      split at outcome_eq
      · cases outcome_eq
        exact .close _ _ ⟨both, found, differs, rfl⟩ normal
      · cases outcome_eq

/-- A round that goes on narrows the bracket by what is found at its point. -/
theorem narrow_of_moves (moves : approximations.Moves search bracket later) :
    ∃ (right : Bool) (proposal : Float), approximations.Finds search bracket.point right ∧
      ¬(bracket.narrow right).choose proposal < minPositive ∧
      later = { bracket.narrow right with point := (bracket.narrow right).choose proposal } := by
  have spec := round_spec approximations search bracket
  rw [show approximations.round search bracket = .next later from moves] at spec
  cases spec with
  | moved both narrowed next _ found differs narrowed_eq next_eq outcome_eq =>
    subst narrowed_eq next_eq
    split at outcome_eq
    · cases outcome_eq
    · next normal =>
      split at outcome_eq
      · cases outcome_eq
      · cases outcome_eq
        exact ⟨_, _, ⟨both, found, differs, rfl⟩, normal, rfl⟩

/-! ### What holds of every bracket -/

/-- One round keeps the order. -/
theorem ordered_moves (ordered : bracket.Ordered)
    (moves : approximations.Moves search bracket later) : later.Ordered := by
  have inside := inside_next ordered.inside moves
  obtain ⟨right, proposal, _, normal, rfl⟩ := narrow_of_moves moves
  obtain ⟨above, below⟩ :=
    between_choose (ordered.inside.narrow right) (ordered.narrow right).2 normal
  exact ⟨inside, above, below⟩

/-- **The point of a search never leaves the bracket.** -/
theorem ordered_reaches (ordered : start.Ordered)
    (reaches : approximations.Reaches search start bracket) : bracket.Ordered := by
  induction reaches with
  | refl => exact ordered
  | tail _ moves ih => exact ordered_moves ih moves

theorem Backed.narrow {right : Bool} (backed : approximations.Backed search start bracket)
    (visits : approximations.Visits search start bracket.point)
    (finds : approximations.Finds search bracket.point right) :
    approximations.Backed search start (bracket.narrow right) := by
  cases right with
  | true => exact ⟨Or.inr ⟨visits, finds⟩, backed.high⟩
  | false => exact ⟨backed.low, Or.inr ⟨visits, finds⟩⟩

/-- **Evaluations speak for the ends of every bracket.** -/
theorem backed_reaches (reaches : approximations.Reaches search start bracket) :
    approximations.Backed search start bracket := by
  induction reaches with
  | refl => exact ⟨Or.inl rfl, Or.inl rfl⟩
  | tail earlier moves ih =>
    obtain ⟨right, proposal, finds, _, rfl⟩ := narrow_of_moves moves
    have narrowed := ih.narrow ⟨_, earlier, rfl⟩ finds
    exact ⟨narrowed.low, narrowed.high⟩

/-- **The lower end only rises.** -/
theorem low_reaches (ordered : bracket.Ordered)
    (reaches : approximations.Reaches search bracket later) :
    value bracket.low ≤ value later.low := by
  induction reaches with
  | refl => exact le_rfl
  | tail earlier moves ih =>
    have between := ordered_reaches ordered earlier
    obtain ⟨right, proposal, _, _, rfl⟩ := narrow_of_moves moves
    exact ih.trans (between.narrow right).1

/-- The brackets of a search that is over all come before the last one. -/
theorem reaches_last (reaches : approximations.Reaches search start bracket)
    (otherReaches : approximations.Reaches search start last)
    (ended : ∀ later, ¬approximations.Moves search last later) :
    approximations.Reaches search bracket last := by
  have unique : Relator.RightUnique (approximations.Moves search) := by
    intro earlier later otherLater moves otherMoves
    unfold Moves at moves otherMoves
    rw [moves] at otherMoves
    exact Step.next.inj otherMoves
  rcases Relation.ReflTransGen.total_of_right_unique unique reaches otherReaches with onward | back
  · exact onward
  · rcases back.cases_head with rfl | ⟨later, moves, _⟩
    · exact .refl
    · exact absurd moves (ended later)

/-- **The lower end at last is above every point that was found left of the root.** -/
theorem point_le_low {right : Bool} (ordered : start.Ordered)
    (reaches : approximations.Reaches search start bracket)
    (finds : approximations.Finds search bracket.point true)
    (otherReaches : approximations.Reaches search start last)
    (ended : ∀ later, ¬approximations.Moves search last later)
    (otherFinds : approximations.Finds search last.point right) :
    value bracket.point ≤ value (last.narrow right).low := by
  -- By what follows the bracket: nothing, or one whose lower end is the point, and that only rises.
  rcases (reaches_last reaches otherReaches ended).cases_head with rfl | ⟨later, moves, onward⟩
  · rw [← finds.unique otherFinds]
    exact le_rfl
  · have between := ordered_reaches ordered reaches
    obtain ⟨otherRight, proposal, thirdFinds, _, later_eq⟩ := narrow_of_moves moves
    have same := finds.unique thirdFinds
    subst same
    have low_eq : later.low = bracket.point := by
      rw [later_eq]
      rfl
    rw [← low_eq]
    have orderedNext := ordered_moves between moves
    exact (low_reaches orderedNext onward).trans
      ((ordered_reaches ordered otherReaches).narrow right).1

end Approximations

end IncompleteBeta
