/-
**How the bracket of a search closes in.**

Whatever a search goes by, not a number and negative tails included, its point lies strictly between
the ends of its bracket, and every round that goes on moves one end to this point. The middles are
rounded, but a round only goes on where its ends are still apart by more than the roundings, and the
point in the normal range.

* `Bracket.Strict`: a bracket of the unit interval with its point strictly inside;
* `apart_of_not_close`: what the test of closeness says of ends that fail it;
* **`strictly_between_choose`**: the next point lies strictly between the ends;
* `Search.SaysRight`, `Search.SaysLeft`, `rightOf_iff`: what a tail says about the root;
* `Search.Advances`, **`advances_of_moves`**: what a round that goes on does to the bracket;
* `Approximations.Kept`, **`kept_reaches`**: what every bracket of a search has kept;
* **`bracket_closes_in`**: all of it, for every search;
* `raisesLow_without_target`: where the target is not a number, an end is moved though the tail does
  not say so.
-/

import IncompleteBeta.Proofs.Binary64.Distance
import IncompleteBeta.Proofs.Search

namespace IncompleteBeta

open Binary64 (InUnit arithmetic_strictly_between beq_iff eighth_lt epsilon finite_of_rounds
  geometric_strictly_between geometric_tiny_iff inUnit_iff isFinite_minPositive isFinite_one
  isFinite_zero le_iff le_iff_extended le_iff_lt_or_beq lt_iff lt_iff_extended minPositive
  not_le_of_isNaN not_le_isNaN rounded_mono rounds_mul rounds_sub sixteen_mul_lt value
  value_eq_exact value_geometric value_minPositive value_one value_zero)

/-! ### Brackets with their point inside -/

/-- **A bracket of the unit interval with its point strictly inside.** -/
structure Bracket.Strict (bracket : Bracket) : Prop where
  nonneg : 0.0 ≤ bracket.low
  low_lt : bracket.low < bracket.point
  lt_high : bracket.point < bracket.high
  le_one : bracket.high ≤ 1.0

section Strict

variable {bracket : Bracket}

/-- Inside the unit interval it is the real numbers that are compared. -/
theorem Bracket.Inside.strict_iff (inside : bracket.Inside) : bracket.Strict ↔
    value bracket.low < value bracket.point ∧ value bracket.point < value bracket.high := by
  have finite := inside.point.isFinite
  constructor
  · intro strict
    exact ⟨(lt_iff inside.low.isFinite finite).mp strict.low_lt,
      (lt_iff finite inside.high.isFinite).mp strict.lt_high⟩
  · rintro ⟨low_lt, lt_high⟩
    exact ⟨inside.low.nonneg, (lt_iff inside.low.isFinite finite).mpr low_lt,
      (lt_iff finite inside.high.isFinite).mpr lt_high, inside.high.le_one⟩

theorem strict_start (guess : Float) : (Bracket.start guess).Strict := by
  refine (inside_start guess).strict_iff.mpr ?_
  have between : ∀ {x : Float}, InUnit x → 0.0 < x → x < 1.0 →
      value 0.0 < value x ∧ value x < value 1.0 := fun unit above below =>
    ⟨(lt_iff isFinite_zero unit.isFinite).mp above, (lt_iff unit.isFinite isFinite_one).mp below⟩
  have unit := (inside_start guess).point
  unfold Bracket.start at unit ⊢
  dsimp only at unit ⊢
  split at unit
  next inner =>
    rw [if_pos inner]
    rw [Bool.and_eq_true, decide_eq_true_iff, decide_eq_true_iff] at inner
    exact between unit inner.1 inner.2
  next outer =>
    rw [if_neg outer]
    split at unit
    next high =>
      rw [if_pos high]
      exact between unit (by decide +kernel) (by decide +kernel)
    next low =>
      rw [if_neg low]
      exact between unit (by decide +kernel) (by decide +kernel)

/-- A bracket that was narrowed to its point has its ends still in order. -/
theorem Bracket.Strict.narrow (strict : bracket.Strict) (inside : bracket.Inside) (right : Bool) :
    value (bracket.narrow right).low < value (bracket.narrow right).high := by
  obtain ⟨low_lt, lt_high⟩ := inside.strict_iff.mp strict
  cases right with
  | true => exact lt_high
  | false => exact low_lt

/-! ### The next point -/

/-- Ends that are not close in the sense of the test are apart by more than a few of the last digits
of the upper one. -/
theorem apart_of_not_close (inside : bracket.Inside)
    (le : value bracket.low ≤ value bracket.high)
    (apart : ¬bracket.high - bracket.low ≤ 4.0 * epsilon * bracket.high) :
    2 ^ (-50 : ℤ) * value bracket.high < value bracket.high - value bracket.low := by
  obtain ⟨finite, nonneg, _⟩ := inUnit_iff.mp inside.low
  obtain ⟨highFinite, highNonneg, high_le_one⟩ := inUnit_iff.mp inside.high
  have unit_finite : (4.0 * epsilon).isFinite = true := by decide +kernel
  have unit_value : value (4.0 * epsilon) = 2 ^ (-50 : ℤ) := by
    have sign : Binary64.signBit (4.0 * epsilon) = false := by decide +kernel
    have mantissa : (Binary64.exact (4.0 * epsilon)).mantissa.natAbs = 2 ^ 52 := by decide +kernel
    have exponent : (Binary64.exact (4.0 * epsilon)).exponent = -102 := by decide +kernel
    rw [value_eq_exact unit_finite, sign, mantissa, exponent]
    show ((2 ^ 52 : ℕ) : ℝ) * 2 ^ (-102 : ℤ) = 2 ^ (-50 : ℤ)
    norm_num
  have small : (2 : ℝ) ^ (-50 : ℤ) * value bracket.high ≤ 2 := by
    have power : (2 : ℝ) ^ (-50 : ℤ) ≤ 1 := zpow_le_one_of_nonpos₀ (by norm_num) (by norm_num)
    nlinarith
  have product := rounds_mul unit_finite highFinite
  rw [unit_value] at product
  obtain ⟨finite_product, product_eq, _⟩ :=
    finite_of_rounds product (mul_nonneg (by positivity) highNonneg) small
  obtain ⟨finite_difference, difference_eq, _⟩ :=
    finite_of_rounds (rounds_sub highFinite finite) (by linarith) (by linarith)
  rw [le_iff finite_difference finite_product, difference_eq, product_eq] at apart
  exact lt_of_not_ge fun close => apart (rounded_mono close)

/-- **The next point lies strictly between the ends**, in the normal range and while they are
apart. -/
theorem strictly_between_choose (inside : bracket.Inside)
    (less : value bracket.low < value bracket.high) {proposal : Float}
    (normal : ¬bracket.choose proposal < minPositive)
    (apart : ¬bracket.high - bracket.low ≤ 4.0 * epsilon * bracket.high) :
    value bracket.low < value (bracket.choose proposal) ∧
      value (bracket.choose proposal) < value bracket.high := by
  have finite := inside.low.isFinite
  have highFinite := inside.high.isFinite
  have unit := inside.choose proposal
  have between := between_choose inside less.le normal
  have least : 2 ^ (-1022 : ℤ) ≤ value (bracket.choose proposal) := by
    rw [lt_iff unit.isFinite isFinite_minPositive, value_minPositive, not_lt] at normal
    exact normal
  have positive : (0 : ℝ) < 2 ^ (-1022 : ℤ) := by positivity
  rcases choose_cases bracket proposal with ⟨above, below, chosen⟩ | ⟨_, chosen⟩
  · rw [chosen] at unit ⊢
    exact ⟨(lt_iff finite unit.isFinite).mp above, (lt_iff unit.isFinite highFinite).mp below⟩
  rw [chosen] at normal between least ⊢
  rcases middle_cases bracket with ⟨none, middle⟩ | ⟨some, wide, middle⟩ | ⟨some, narrow, middle⟩
  · rw [beq_iff finite isFinite_zero, value_zero] at none
    rw [middle] at least ⊢
    exact ⟨by linarith, eighth_lt inside.high (by linarith)⟩
  · rw [middle] at normal ⊢
    refine geometric_strictly_between inside.low inside.high
      (sixteen_mul_lt inside.low inside.high wide) fun vanishes => ?_
    refine normal ((geometric_tiny_iff inside.low inside.high).mpr ?_)
    obtain ⟨finite_product, value_eq, _⟩ := value_geometric inside.low inside.high
    rw [beq_iff finite_product isFinite_zero, value_zero, value_eq, vanishes]
  · rw [middle]
    exact arithmetic_strictly_between inside.low inside.high (least.trans between.2)
      (apart_of_not_close inside less.le apart)

end Strict

/-! ### What a tail says -/

/-- The tail at a point says that the root is to its right: the lower tail is too small there, or
the upper one too large. -/
def Search.SaysRight (search : Search) (v : Float) : Prop :=
  match search.side with
  | .lower => v < search.target
  | .upper => search.target < v

/-- The tail at a point says that the root is to its left. -/
def Search.SaysLeft (search : Search) (v : Float) : Prop :=
  match search.side with
  | .lower => search.target < v
  | .upper => v < search.target

section Says

variable {search : Search} {v : Float}

/-- Of two different numbers one is less. -/
theorem not_lt_iff_of_differ {x y : Float} (number : x.isNaN = false)
    (otherNumber : y.isNaN = false) (differ : ¬(x == y) = true) : ¬x < y ↔ y < x := by
  constructor
  · intro not_less
    have above : ¬x ≤ y := fun le => (le_iff_lt_or_beq.mp le).elim not_less differ
    rw [le_iff_extended] at above
    rw [lt_iff_extended otherNumber number]
    exact lt_of_not_ge fun le => above ⟨number, otherNumber, le⟩
  · intro greater less
    exact Binary64.not_le_of_lt greater (Binary64.le_of_lt less)

/-- **A number that is not the target says on which side of it the root is**, and this is how the
bracket is narrowed. -/
theorem rightOf_iff (number : v.isNaN = false) (otherNumber : search.target.isNaN = false)
    (differs : ¬(v == search.target) = true) :
    (search.rightOf v = true ↔ search.SaysRight v) ∧
      (search.rightOf v = false ↔ search.SaysLeft v) := by
  have opposite := not_lt_iff_of_differ number otherNumber differs
  unfold Search.rightOf Search.SaysRight Search.SaysLeft
  cases search.side with
  | lower => simp [opposite]
  | upper => simp [opposite]

/-- Where one of the two is not a number nothing is said, and the search goes on to the left for the
lower tail, and to the right for the upper one. -/
theorem rightOf_of_isNaN (unordered : v.isNaN = true ∨ search.target.isNaN = true) :
    search.rightOf v = true ↔ search.side = .upper := by
  have never : ¬v < search.target := fun less =>
    unordered.elim (fun notANumber => not_le_of_isNaN notANumber (Binary64.le_of_lt less))
      fun notANumber => not_le_isNaN notANumber (Binary64.le_of_lt less)
  unfold Search.rightOf
  rw [decide_eq_false never]
  cases search.side <;> decide

end Says

/-! ### Rounds that go on -/

/-- The lower end was moved to the point. -/
def Bracket.RaisesLow (bracket later : Bracket) : Prop :=
  later.low = bracket.point ∧ later.high = bracket.high

/-- The upper end was moved to the point. -/
def Bracket.LowersHigh (bracket later : Bracket) : Prop :=
  later.low = bracket.low ∧ later.high = bracket.point

/-- **What a round that goes on does to the bracket**, from the tail `v` at its point. -/
structure Search.Advances (search : Search) (v : Float) (bracket later : Bracket) : Prop where
  moves_one : Xor (bracket.RaisesLow later) (bracket.LowersHigh later)
  low_le : bracket.low ≤ later.low
  le_high : later.high ≤ bracket.high
  shrinks : value later.high - value later.low < value bracket.high - value bracket.low
  /-- The end that is moved is the one on which the root is not, where the tail says so. -/
  low_iff : v.isNaN = false → search.target.isNaN = false →
    (bracket.RaisesLow later ↔ search.SaysRight v)
  high_iff : v.isNaN = false → search.target.isNaN = false →
    (bracket.LowersHigh later ↔ search.SaysLeft v)
  /-- Where the tail says nothing, it is the side that is compared that decides. -/
  unordered : v.isNaN = true ∨ search.target.isNaN = true →
    (bracket.RaisesLow later ↔ search.side = .upper)

section Moves

variable {search : Search} {v proposal : Float} {bracket : Bracket}

/-- Which end of a bracket was moved is seen from its ends, as its point is none of them. -/
theorem Bracket.Strict.narrow_iff (strict : bracket.Strict) (inside : bracket.Inside)
    (right : Bool) (point : Float) :
    (bracket.RaisesLow { bracket.narrow right with point } ↔ right = true) ∧
      (bracket.LowersHigh { bracket.narrow right with point } ↔ right = false) := by
  obtain ⟨low_lt, lt_high⟩ := inside.strict_iff.mp strict
  have low_ne : ¬bracket.low = bracket.point := fun same => low_lt.ne (congrArg value same)
  have high_ne : ¬bracket.high = bracket.point := fun same => lt_high.ne' (congrArg value same)
  unfold Bracket.RaisesLow Bracket.LowersHigh Bracket.narrow
  cases right with
  | true => simp [high_ne]
  | false => simp [low_ne]

/-- **Narrowing a bracket to its point** advances it. -/
theorem Bracket.Strict.advances (strict : bracket.Strict) (inside : bracket.Inside)
    (differs : ¬(v == search.target) = true) (point : Float) :
    search.Advances v bracket { bracket.narrow (search.rightOf v) with point } := by
  obtain ⟨low_lt, lt_high⟩ := inside.strict_iff.mp strict
  obtain ⟨raises_iff, lowers_iff⟩ := strict.narrow_iff inside (search.rightOf v) point
  have narrower := inside.narrow (search.rightOf v)
  refine ⟨?_, ?_, ?_, ?_, ?_, ?_, ?_⟩
  · rw [raises_iff, lowers_iff]
    cases search.rightOf v <;> decide
  · rw [le_iff inside.low.isFinite narrower.low.isFinite]
    cases search.rightOf v with
    | true => exact low_lt.le
    | false => exact le_rfl
  · rw [le_iff narrower.high.isFinite inside.high.isFinite]
    cases search.rightOf v with
    | true => exact le_rfl
    | false => exact lt_high.le
  · cases search.rightOf v with
    | true => exact sub_lt_sub_left low_lt _
    | false => exact sub_lt_sub_right lt_high _
  · intro number otherNumber
    rw [raises_iff, (rightOf_iff number otherNumber differs).1]
  · intro number otherNumber
    rw [lowers_iff, (rightOf_iff number otherNumber differs).2]
  · intro unordered
    rw [raises_iff, rightOf_of_isNaN unordered]

end Moves

namespace Approximations

variable (approximations : Approximations) (search : Search)

/-- What was evaluated before the round of a bracket. -/
def EvaluatedBefore (start bracket : Bracket) (x : Float) : Prop :=
  ∃ earlier, approximations.Reaches search start earlier ∧
    Relation.TransGen (approximations.Moves search) earlier bracket ∧ earlier.point = x

/-- **What every bracket of a search has kept**: its point is strictly inside, and its ends are
those of the unit interval or were evaluated before. -/
structure Kept (start bracket : Bracket) : Prop where
  strict : bracket.Strict
  low : bracket.low = 0.0 ∨ approximations.EvaluatedBefore search start bracket bracket.low
  high : bracket.high = 1.0 ∨ approximations.EvaluatedBefore search start bracket bracket.high

variable {approximations search} {bracket later start : Bracket} {x : Float}

/-- **A round that goes on** evaluates its point, and narrows the bracket to it; its ends are not
close by then. -/
theorem moves_eq (moves : approximations.Moves search bracket later) :
    ∃ (both : Tails) (proposal : Float),
      approximations.tails search.a search.b bracket.point search.lnBeta = .ok both ∧
      ¬(both.on search.side == search.target) = true ∧
      ¬(bracket.narrow (search.rightOf (both.on search.side))).choose proposal < minPositive ∧
      ¬(bracket.narrow (search.rightOf (both.on search.side))).high -
          (bracket.narrow (search.rightOf (both.on search.side))).low ≤
        4.0 * epsilon * (bracket.narrow (search.rightOf (both.on search.side))).high ∧
      later = { bracket.narrow (search.rightOf (both.on search.side)) with
        point := (bracket.narrow (search.rightOf (both.on search.side))).choose proposal } := by
  have spec := round_spec approximations search bracket
  rw [show approximations.round search bracket = .next later from moves] at spec
  cases spec with
  | moved both narrowed next _ found differs narrowed_eq next_eq outcome_eq =>
    subst narrowed_eq next_eq
    split at outcome_eq
    · cases outcome_eq
    · next normal =>
      split at outcome_eq
      · cases outcome_eq
      · next apart =>
        cases outcome_eq
        rw [Bool.or_eq_true, decide_eq_true_iff, decide_eq_true_iff, not_or] at apart
        exact ⟨both, _, found, differs, normal, apart.2, rfl⟩

/-- **A round that goes on keeps the point strictly inside**, and advances the bracket. -/
theorem advances_of_moves (inside : bracket.Inside) (strict : bracket.Strict)
    (moves : approximations.Moves search bracket later) : later.Strict ∧
      ∃ both, approximations.tails search.a search.b bracket.point search.lnBeta = .ok both ∧
        search.Advances (both.on search.side) bracket later := by
  have insideNext := inside_next inside moves
  obtain ⟨both, proposal, found, differs, normal, apart, rfl⟩ := moves_eq moves
  have between := strictly_between_choose (inside.narrow _) (strict.narrow inside _) normal apart
  exact ⟨insideNext.strict_iff.mpr between, both, found, strict.advances inside differs _⟩

/-- What was evaluated before a round was evaluated before the next one. -/
theorem EvaluatedBefore.moves (before : approximations.EvaluatedBefore search start bracket x)
    (moves : approximations.Moves search bracket later) :
    approximations.EvaluatedBefore search start later x := by
  obtain ⟨earlier, reaches, onward, point_eq⟩ := before
  exact ⟨earlier, reaches, onward.tail moves, point_eq⟩

/-- What was kept is kept by a round that goes on: the end that it moves was evaluated by it. -/
theorem Kept.moves (kept : approximations.Kept search start bracket) (inside : bracket.Inside)
    (reaches : approximations.Reaches search start bracket)
    (moves : approximations.Moves search bracket later) :
    approximations.Kept search start later := by
  obtain ⟨strict, both, found, advances⟩ := advances_of_moves inside kept.strict moves
  have here : approximations.EvaluatedBefore search start later bracket.point :=
    ⟨bracket, reaches, .single moves, rfl⟩
  have low := kept.low.imp_right fun before => before.moves moves
  have high := kept.high.imp_right fun before => before.moves moves
  rcases advances.moves_one.or with ⟨low_eq, high_eq⟩ | ⟨low_eq, high_eq⟩
  · exact ⟨strict, .inr (low_eq ▸ here), high_eq ▸ high⟩
  · exact ⟨strict, low_eq ▸ low, .inr (high_eq ▸ here)⟩

/-- **Every bracket of a search has kept it**, with its ends and its point in the unit interval. -/
theorem kept_reaches {guess : Float}
    (reaches : approximations.Reaches search (.start guess) bracket) :
    bracket.Inside ∧ approximations.Kept search (.start guess) bracket := by
  induction reaches with
  | refl => exact ⟨inside_start guess, strict_start guess, .inl rfl, .inl rfl⟩
  | tail earlier moves ih =>
    obtain ⟨inside, kept⟩ := ih
    exact ⟨inside_next inside moves, kept.moves inside earlier moves⟩

/-- The target of a search is not a number exactly if the upper probability is not. -/
theorem isNaN_target (approximations : Approximations) (a b p q : Float) :
    (approximations.search a b p q).target.isNaN = q.isNaN := by
  unfold search
  dsimp only
  split
  next le =>
    have number : p.isNaN = false := Bool.eq_false_iff.mpr fun nan => not_le_of_isNaN nan le
    have otherNumber : q.isNaN = false := Bool.eq_false_iff.mpr fun nan => not_le_isNaN nan le
    rw [number, otherNumber]
  next => rfl

/-- **How the bracket of a search closes in**, whatever the search goes by and is asked for. At the
head of every round it has kept its point strictly inside, between ends that were evaluated before;
a round that goes on moves one end to its point, the end that the tail there says, and the target
that the tail is compared with is a number wherever the upper one is. -/
theorem bracket_closes_in (approximations : Approximations) (a b p q guess : Float)
    {bracket : Bracket}
    (reaches : approximations.Reaches (approximations.search a b p q) (.start guess) bracket) :
    approximations.Kept (approximations.search a b p q) (.start guess) bracket ∧
      (∀ later, approximations.Moves (approximations.search a b p q) bracket later →
        ∃ both, approximations.tails a b bracket.point (approximations.logBeta a b) = .ok both ∧
          (approximations.search a b p q).Advances
            (both.on (approximations.search a b p q).side) bracket later) ∧
      (approximations.search a b p q).target.isNaN = q.isNaN := by
  obtain ⟨inside, kept⟩ := kept_reaches reaches
  refine ⟨kept, fun later moves => ?_, isNaN_target approximations a b p q⟩
  exact (advances_of_moves inside kept.strict moves).2

/-- Where the target is not a number the lower end is moved to the point, though the upper tail
there is a number and says nothing about the root. -/
theorem raisesLow_without_target :
    let search := standard.search 1.0 1.0 0.5 Binary64.nan
    let later : Bracket := ⟨0.5, 1.0, 0.75⟩
    standard.Reaches search (.start 0.5) (.start 0.5) ∧
      standard.Moves search (.start 0.5) later ∧
      ∃ both, standard.tails 1.0 1.0 0.5 (standard.logBeta 1.0 1.0) = .ok both ∧
        (both.on search.side).isNaN = false ∧ (Bracket.start 0.5).RaisesLow later ∧
        ¬search.SaysRight (both.on search.side) := by
  intro search later
  have side : search.side = .upper := by decide +kernel
  have found : standard.tails 1.0 1.0 0.5 (standard.logBeta 1.0 1.0) = .ok ⟨0.5, 0.5⟩ :=
    eq_ok_of_toOption (by decide +kernel)
  have moves : standard.Moves search (.start 0.5) later := by
    unfold Moves
    decide +kernel
  refine ⟨.refl, moves, _, found, ?_, ⟨by decide +kernel, rfl⟩, ?_⟩
  · rw [side]
    decide +kernel
  · rw [Search.SaysRight, side]
    show ¬Binary64.nan < 0.5
    decide +kernel

/-- Tails that are nowhere a probability, and no other approximations. -/
def astray : Approximations where
  logBeta _ _ := Binary64.nan
  tails _ _ x _ := .ok (if x < 0.25 then ⟨-1.0, Binary64.nan⟩ else ⟨Binary64.nan, -1.0⟩)
  newton _ _ _ := Binary64.nan
  guess _ _ _ _ := Binary64.nan

/-- By them the first bracket is halved from above, and then from below. -/
theorem bracket_closes_in_astray :
    astray.Reaches (astray.search 1.0 1.0 0.25 0.75) (.start 0.5) ⟨0.0, 0.5, 0.0625⟩ ∧
      astray.Moves (astray.search 1.0 1.0 0.25 0.75) ⟨0.0, 0.5, 0.0625⟩ ⟨0.0625, 0.5, 0.28125⟩ ∧
      (astray.search 1.0 1.0 0.25 0.75).Advances (-1.0) ⟨0.0, 0.5, 0.0625⟩
        ⟨0.0625, 0.5, 0.28125⟩ := by
  have first : astray.Moves (astray.search 1.0 1.0 0.25 0.75) (.start 0.5) ⟨0.0, 0.5, 0.0625⟩ := by
    unfold Moves
    decide +kernel
  have second : astray.Moves (astray.search 1.0 1.0 0.25 0.75) ⟨0.0, 0.5, 0.0625⟩
      ⟨0.0625, 0.5, 0.28125⟩ := by
    unfold Moves
    decide +kernel
  have reaches := Relation.ReflTransGen.single first
  obtain ⟨_, advances, _⟩ := bracket_closes_in astray 1.0 1.0 0.25 0.75 0.5 reaches
  obtain ⟨both, found, advances⟩ := advances _ second
  have both_eq : both = ⟨-1.0, Binary64.nan⟩ := by
    refine Except.ok.inj (found.symm.trans ?_)
    show Except.ok (if (0.0625 : Float) < 0.25 then _ else _) = _
    rw [if_pos (by decide +kernel)]
  have side : (astray.search 1.0 1.0 0.25 0.75).side = .lower := by decide +kernel
  rw [both_eq, side] at advances
  exact ⟨reaches, second, advances⟩

end Approximations

end IncompleteBeta
