/-
**The two forward tails are one computation.**

* `ScaledProduct`, `ClassicalProduct`: the direct tail, a product of its prefactor and a fraction;
* `Paired`: the two tails at a point, one of them direct and the other one minus it;
* **`tails_eq_ok_iff`**: what is found at a point is paired so, and nothing else is;
* `Paired.complementary`: one of the two is one minus the other, at the ends as well;
* **`forward_tails_pair`**: the evaluators of the two tails find the two numbers of one pair, or
  fail of one cause.
-/

import IncompleteBeta.Proofs.Asked
import IncompleteBeta.Proofs.Reflection

namespace IncompleteBeta

variable [Elementary]

/-- **A direct tail by the scaled fraction**, with the shapes and points in its own order. -/
def ScaledProduct (a b x y lnBeta driving direct : Float) : Prop :=
  ∃ scale fraction, prefactor a b x y lnBeta = .ok scale ∧
    scaledFraction a b x y driving = .ok fraction ∧ direct = scale * fraction

/-- **A direct tail by the classical fraction**, whose prefactor is divided by the first shape. -/
def ClassicalProduct (a b x y lnBeta direct : Float) : Prop :=
  ∃ scale fraction, prefactor a b x y lnBeta = .ok scale ∧
    classicalFraction a b x y = .ok fraction ∧ direct = scale / a * fraction

/-- Off the ends of the unit interval, as a point is compared with them. -/
structure Inside (x : Float) : Prop where
  not_low : ¬x ≤ 0.0
  not_high : ¬1.0 ≤ x

/-- **The two tails at a point.** At the ends they are known. Inside, one of them is a product, of
the prefactor and the fraction that suits the shapes, on the side where that converges, and the
other is one minus this product. For the upper tail the shapes are exchanged, and the point with its
complement. -/
inductive Paired (a b x lnBeta : Float) : Tails → Prop where
  | zero (low : x ≤ 0.0) : Paired a b x lnBeta ⟨0.0, 1.0⟩
  | one (not_low : ¬x ≤ 0.0) (high : 1.0 ≤ x) : Paired a b x lnBeta ⟨1.0, 0.0⟩
  | scaledLower (inside : Inside x) (above : 1.0 < a ∧ 1.0 < b) (left : 0.0 ≤ driving a b x)
      (direct : Float)
      (product : ScaledProduct a b x (1.0 - x) lnBeta (driving a b x) direct) :
      Paired a b x lnBeta ⟨direct, 1.0 - direct⟩
  | scaledUpper (inside : Inside x) (above : 1.0 < a ∧ 1.0 < b) (right : ¬0.0 ≤ driving a b x)
      (direct : Float)
      (product : ScaledProduct b a (1.0 - x) x lnBeta (-driving a b x) direct) :
      Paired a b x lnBeta ⟨1.0 - direct, direct⟩
  | classicalLower (inside : Inside x) (low_shape : ¬(1.0 < a ∧ 1.0 < b))
      (left : x ≤ (a + 1.0) / (a + b + 2.0)) (direct : Float)
      (product : ClassicalProduct a b x (1.0 - x) lnBeta direct) :
      Paired a b x lnBeta ⟨direct, 1.0 - direct⟩
  | classicalUpper (inside : Inside x) (low_shape : ¬(1.0 < a ∧ 1.0 < b))
      (right : ¬x ≤ (a + 1.0) / (a + b + 2.0)) (direct : Float)
      (product : ClassicalProduct b a (1.0 - x) x lnBeta direct) :
      Paired a b x lnBeta ⟨1.0 - direct, direct⟩

/-! ### Products -/

section Products

variable {a b x y lnBeta driven direct : Float} {both : Tails}

theorem scaledProduct_iff (side : Side) : ScaledProduct a b x y lnBeta driven direct ↔
    ∃ factors, (Route.scaled side driven).factors a b x y lnBeta = .ok factors ∧
      factors.product = direct := by
  constructor
  · rintro ⟨scale, fraction, scale_eq, fraction_eq, rfl⟩
    refine ⟨⟨scale, fraction⟩, ?_, rfl⟩
    rw [Route.factors, scale_eq, ok_bind]
    dsimp only
    rw [fraction_eq]
    rfl
  · rintro ⟨factors, found, rfl⟩
    obtain ⟨scale, scale_eq, found⟩ := bind_eq_ok.mp found
    obtain ⟨fraction, fraction_eq, same⟩ := bind_eq_ok.mp found
    cases same
    exact ⟨scale, fraction, scale_eq, fraction_eq, rfl⟩

theorem classicalProduct_iff (side : Side) : ClassicalProduct a b x y lnBeta direct ↔
    ∃ factors, (Route.classical side).factors a b x y lnBeta = .ok factors ∧
      factors.product = direct := by
  constructor
  · rintro ⟨scale, fraction, scale_eq, fraction_eq, rfl⟩
    refine ⟨⟨scale / a, fraction⟩, ?_, rfl⟩
    rw [Route.factors, scale_eq, ok_bind]
    dsimp only
    rw [fraction_eq]
    rfl
  · rintro ⟨factors, found, rfl⟩
    obtain ⟨scale, scale_eq, found⟩ := bind_eq_ok.mp found
    obtain ⟨fraction, fraction_eq, same⟩ := bind_eq_ok.mp found
    cases same
    exact ⟨scale, fraction, scale_eq, fraction_eq, rfl⟩

/-- What a route finds is made of the product of its factors. -/
theorem evaluate_eq_ok {route : Route} : route.evaluate a b x lnBeta = .ok both ↔
    ∃ direct, (∃ factors, route.factorsAt a b x lnBeta = .ok factors ∧ factors.product = direct) ∧
      Tails.ofDirect route.side direct = both := by
  constructor
  · intro found
    obtain ⟨factors, factors_eq, same⟩ := bind_eq_ok.mp found
    exact ⟨factors.product, ⟨factors, factors_eq, rfl⟩, Except.ok.inj same⟩
  · rintro ⟨_, ⟨factors, factors_eq, rfl⟩, rfl⟩
    rw [Route.evaluate, factors_eq]
    rfl

end Products

/-! ### Pairs -/

section Pairs

variable {a b x lnBeta : Float} {both : Tails}

theorem tails_of_inside (inside : Inside x) :
    tails a b x lnBeta = (route a b x).evaluate a b x lnBeta := by
  rw [tails, if_neg inside.not_low, if_neg inside.not_high]

omit [Elementary] in
theorem route_of_low_shape (low_shape : ¬(1.0 < a ∧ 1.0 < b)) : route a b x =
    if x ≤ (a + 1.0) / (a + b + 2.0) then .classical .lower else .classical .upper := by
  refine if_neg ?_
  rwa [Bool.and_eq_true, decide_eq_true_iff, decide_eq_true_iff]

/-- A pair is what is found, whichever its tails come from. -/
theorem tails_of_paired (paired : Paired a b x lnBeta both) : tails a b x lnBeta = .ok both := by
  cases paired with
  | zero low => exact if_pos low
  | one not_low high => rw [tails, if_neg not_low, if_pos high]
  | scaledLower inside above left direct product =>
    rw [tails_of_inside inside, route_of_above above.1 above.2, if_pos left]
    exact evaluate_eq_ok.mpr ⟨direct, (scaledProduct_iff .lower).mp product, rfl⟩
  | scaledUpper inside above right direct product =>
    rw [tails_of_inside inside, route_of_above above.1 above.2, if_neg right]
    exact evaluate_eq_ok.mpr ⟨direct, (scaledProduct_iff .upper).mp product, rfl⟩
  | classicalLower inside low_shape left direct product =>
    rw [tails_of_inside inside, route_of_low_shape low_shape, if_pos left]
    exact evaluate_eq_ok.mpr ⟨direct, (classicalProduct_iff .lower).mp product, rfl⟩
  | classicalUpper inside low_shape right direct product =>
    rw [tails_of_inside inside, route_of_low_shape low_shape, if_neg right]
    exact evaluate_eq_ok.mpr ⟨direct, (classicalProduct_iff .upper).mp product, rfl⟩

/-- What is found inside the interval is paired: by the shapes and by the side of the point. -/
theorem paired_of_evaluate (inside : Inside x)
    (found : (route a b x).evaluate a b x lnBeta = .ok both) : Paired a b x lnBeta both := by
  by_cases above : 1.0 < a ∧ 1.0 < b
  · rw [route_of_above above.1 above.2] at found
    by_cases left : 0.0 ≤ driving a b x
    · rw [if_pos left] at found
      obtain ⟨direct, factors, rfl⟩ := evaluate_eq_ok.mp found
      exact .scaledLower inside above left direct ((scaledProduct_iff .lower).mpr factors)
    · rw [if_neg left] at found
      obtain ⟨direct, factors, rfl⟩ := evaluate_eq_ok.mp found
      exact .scaledUpper inside above left direct ((scaledProduct_iff .upper).mpr factors)
  · rw [route_of_low_shape above] at found
    by_cases left : x ≤ (a + 1.0) / (a + b + 2.0)
    · rw [if_pos left] at found
      obtain ⟨direct, factors, rfl⟩ := evaluate_eq_ok.mp found
      exact .classicalLower inside above left direct ((classicalProduct_iff .lower).mpr factors)
    · rw [if_neg left] at found
      obtain ⟨direct, factors, rfl⟩ := evaluate_eq_ok.mp found
      exact .classicalUpper inside above left direct ((classicalProduct_iff .upper).mpr factors)

/-- **What is found at a point is paired, and nothing else is.** -/
theorem tails_eq_ok_iff : tails a b x lnBeta = .ok both ↔ Paired a b x lnBeta both := by
  refine ⟨fun found => ?_, tails_of_paired⟩
  by_cases low : x ≤ 0.0
  · rw [tails, if_pos low] at found
    cases found
    exact .zero low
  by_cases high : 1.0 ≤ x
  · rw [tails, if_neg low, if_pos high] at found
    cases found
    exact .one low high
  rw [tails_of_inside ⟨low, high⟩] at found
  exact paired_of_evaluate ⟨low, high⟩ found

/-- **One of the tails of a pair is one minus the other**, the ends included. -/
theorem Paired.complementary (paired : Paired a b x lnBeta both) :
    both.upper = 1.0 - both.lower ∨ both.lower = 1.0 - both.upper := by
  cases paired with
  | zero low => exact .inl (by decide +kernel)
  | one not_low high => exact .inl (by decide +kernel)
  | scaledLower => exact .inl rfl
  | scaledUpper => exact .inr rfl
  | classicalLower => exact .inl rfl
  | classicalUpper => exact .inr rfl

end Pairs

/-! ### Evaluators -/

/-- What the evaluators of the two tails come to together: the two numbers of one pair, or one
cause, each in its own name. -/
inductive Forward (a b x : Float) : Except Failure Float → Except Failure Float → Prop where
  | values (both : Tails) (paired : Paired a b x (logBeta a b) both)
      (complementary : both.upper = 1.0 - both.lower ∨ both.lower = 1.0 - both.upper) :
      Forward a b x (.ok both.lower) (.ok both.upper)
  | failures (cause : Cause) :
      Forward a b x (.error ⟨.evaluator .lowerTail, cause⟩) (.error ⟨.evaluator .upperTail, cause⟩)

/-- **The two forward tails are one computation.** The evaluators succeed together, with the two
numbers of the one pair at the point, of which one at most comes of a subtraction, or fail together
of one cause, each in its own name. Each hands its name down to all that can fail, and nothing shows
of it but that name. -/
theorem forward_tails_pair (a b x : Float) :
    Forward a b x (lowerTail a b x) (upperTail a b x) ∧
    (∀ both, tails a b x (logBeta a b) = .ok both ↔ Paired a b x (logBeta a b) both) ∧
    (lowerTail a b x = Asked.lowerTail a b x ∧ upperTail a b x = Asked.upperTail a b x) ∧
    ∀ routine otherRoutine : Routine, Corresponds routine otherRoutine
      (Asked.checkedTails routine a b x) (Asked.checkedTails otherRoutine a b x) := by
  refine ⟨?_, fun both => tails_eq_ok_iff, ?_, fun routine otherRoutine => ?_⟩
  · unfold lowerTail upperTail
    cases outcome : checkedTails a b x with
    | error cause => exact .failures cause
    | ok both =>
      have found := (checked_eq_ok.mp outcome).2.2.2
      have paired := tails_eq_ok_iff.mp found
      exact .values both paired paired.complementary
  · obtain ⟨_, _, lower, upper⟩ := Asked.evaluators_eq a b x
    exact ⟨lower.symm, upper.symm⟩
  · rw [Asked.checkedTails_eq, Asked.checkedTails_eq]
    exact corresponds_attributeTo _ _ _

end IncompleteBeta
