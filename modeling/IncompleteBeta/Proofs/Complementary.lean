/-
**The two inverses are one.**

The point whose upper tail is `1 - p` is the point whose lower tail is `p`, and both are found by
the same search in the same steps. All that tells them apart is the name in a failure:

* `invert_congr`: an inverse takes the zeros of either sign for one probability;
* `Asked.OnlyNames`: of the routine that is handed down nothing shows but its name in a failure;
* **`quantiles_correspond`**: wherever `1 - (1 - p)` is `p`, from one half on in particular, the two
  inverses give the same point and complement, bit for bit, or fail of the same cause.
-/

import IncompleteBeta.Proofs.Arguments
import IncompleteBeta.Proofs.Asked
import IncompleteBeta.Proofs.Binary64.Symmetry

namespace IncompleteBeta

open Binary64 (InUnit value beq_iff complement_complement eq_of_value_eq inUnit_complement
  inUnit_of_half_le isFinite_zero value_zero)

section Elementary

variable [Elementary]

/-! ### Names -/

namespace Asked

/-- **Of the routine that is asked nothing shows but its name in a failure**: not in where a search
goes, not in what it finds, and not in the cause when it fails. -/
structure OnlyNames (routine otherRoutine : Routine) : Prop where
  prefactor : ∀ a b x y lnBeta, Corresponds routine otherRoutine (prefactor routine a b x y lnBeta)
    (prefactor otherRoutine a b x y lnBeta)
  classicalFraction : ∀ a b x y,
    Corresponds routine otherRoutine (classicalFraction routine a b x y)
    (classicalFraction otherRoutine a b x y)
  scaledFraction : ∀ a b x y driving, Corresponds routine otherRoutine
    (scaledFraction routine a b x y driving) (scaledFraction otherRoutine a b x y driving)
  tails : ∀ a b x lnBeta, Corresponds routine otherRoutine (tails routine a b x lnBeta)
    (tails otherRoutine a b x lnBeta)
  solve : ∀ a b p q guess, Corresponds routine otherRoutine (solve routine a b p q guess)
    (solve otherRoutine a b p q guess)
  invert : ∀ a b p q, Corresponds routine otherRoutine (invert routine a b p q)
    (invert otherRoutine a b p q)

theorem onlyNames (routine otherRoutine : Routine) : OnlyNames routine otherRoutine where
  prefactor a b x y lnBeta := by
    rw [prefactor_eq, prefactor_eq]
    exact corresponds_attributeTo _ _ _
  classicalFraction a b x y := by
    rw [classicalFraction_eq, classicalFraction_eq]
    exact corresponds_attributeTo _ _ _
  scaledFraction a b x y driving := by
    rw [scaledFraction_eq, scaledFraction_eq]
    exact corresponds_attributeTo _ _ _
  tails a b x lnBeta := by
    rw [tails_eq, tails_eq]
    exact corresponds_attributeTo _ _ _
  solve a b p q guess := by
    rw [solve_eq, solve_eq]
    exact corresponds_attributeTo _ _ _
  invert a b p q := by
    rw [invert_eq, invert_eq]
    exact corresponds_attributeTo _ _ _

end Asked

/-! ### Complementary probabilities -/

section Complementary

variable {a b p other q : Float}

omit [Elementary] in
/-- Equal finite doubles are the same double, or zeros. -/
theorem eq_or_zero (finite : p.isFinite = true) (otherFinite : other.isFinite = true)
    (same : (p == other) = true) : p = other ∨ (p == 0.0) = true ∧ (other == 0.0) = true := by
  rw [beq_iff finite otherFinite] at same
  by_cases zero : value p = 0
  · rw [beq_iff finite isFinite_zero, beq_iff otherFinite isFinite_zero, value_zero, ← same]
    exact Or.inr ⟨zero, zero⟩
  · exact Or.inl (eq_of_value_eq finite otherFinite zero same)

/-- **An inverse takes the zeros of either sign for one probability**, and is a function of the
double otherwise. -/
theorem invert_congr (finite : p.isFinite = true) (otherFinite : other.isFinite = true)
    (same : (p == other) = true) : invert a b p q = invert a b other q := by
  rcases eq_or_zero finite otherFinite same with rfl | ⟨zero, otherZero⟩
  · rfl
  · unfold invert Approximations.invert
    rw [if_pos zero, if_pos otherZero]

/-- Complementary probabilities ask both inverses for one point. -/
theorem corresponds_of_complement (unit : InUnit p) (exact : (1.0 - (1.0 - p) == p) = true) :
    Corresponds (.evaluator .upperQuantile) (.evaluator .quantile) (upperQuantile a b (1.0 - p))
      (quantile a b p) := by
  have complementUnit : InUnit (1.0 - p) := inUnit_complement unit
  have inverted : invert a b (1.0 - (1.0 - p)) (1.0 - p) = invert a b p (1.0 - p) :=
    invert_congr (inUnit_complement complementUnit).isFinite unit.isFinite exact
  show Corresponds _ _ (attributeTo _ (checked "q" a b (1.0 - p)
    (invert a b (1.0 - (1.0 - p)) (1.0 - p)))) (attributeTo _ (checked "p" a b p _))
  rw [inverted, checked_congr complementUnit unit]
  exact corresponds_attributeTo _ _ _

end Complementary

/-- **The two inverses are one**: at complementary probabilities they find the same point with the
same complement, bit for bit, or fail of the same cause, each in its own name. Probabilities are
complementary wherever the complement of the complement is the probability, which is so from one
half on. The routine in whose name an inverse is computed is handed down to all its parts, and
nothing shows of it but that name. -/
theorem quantiles_correspond :
    (∀ a b p : Float, InUnit p → (1.0 - (1.0 - p) == p) = true →
      Corresponds (.evaluator .upperQuantile) (.evaluator .quantile) (upperQuantile a b (1.0 - p))
        (quantile a b p)) ∧
    (∀ p : Float, 0.5 ≤ p → p ≤ 1.0 → InUnit p ∧ 1.0 - (1.0 - p) = p) ∧
    (∀ a b p : Float, quantile a b p = Asked.quantile a b p ∧
      upperQuantile a b p = Asked.upperQuantile a b p) ∧
    ∀ routine otherRoutine : Routine, Asked.OnlyNames routine otherRoutine := by
  refine ⟨fun a b p => corresponds_of_complement, fun p half le_one =>
    ⟨inUnit_of_half_le half le_one, complement_complement half le_one⟩, fun a b p => ?_,
    Asked.onlyNames⟩
  obtain ⟨lower, upper, _⟩ := Asked.evaluators_eq a b p
  exact ⟨lower.symm, upper.symm⟩

end Elementary

/-- A probability below one half may be the complement of its complement as well. -/
theorem quantiles_correspond_quarter : InUnit 0.25 ∧ (1.0 - (1.0 - 0.25) == (0.25 : Float)) = true ∧
    Corresponds (.evaluator .upperQuantile) (.evaluator .quantile)
      (upperQuantile 2.0 3.0 (1.0 - 0.25)) (quantile 2.0 3.0 0.25) ∧
    (0.5 : Float) ≤ 0.75 ∧ (0.75 : Float) ≤ 1.0 ∧ 1.0 - (1.0 - 0.75) = (0.75 : Float) := by
  have unit : InUnit 0.25 := Binary64.inUnit_of_le (by decide +kernel) (by decide +kernel)
  have exact : (1.0 - (1.0 - 0.25) == (0.25 : Float)) = true := by decide +kernel
  have half : (0.5 : Float) ≤ 0.75 := by decide +kernel
  have le_one : (0.75 : Float) ≤ 1.0 := by decide +kernel
  exact ⟨unit, exact, quantiles_correspond.1 2.0 3.0 0.25 unit exact, half, le_one,
    (quantiles_correspond.2.1 0.75 half le_one).2⟩

end IncompleteBeta
