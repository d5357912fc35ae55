/-
**Inverses for exchanged shapes.**

The point whose lower tail is `p` for the shapes `a`, `b` is the complement of the point whose upper
tail is `p` for the shapes `b`, `a`. The two inverses get there on different ways: one searches for
the point and subtracts it from 1, the other turns to the reflected problem at once and searches for
the complement. Where it is one and the same search on both ways, nothing is lost:

* `Quantile.exchanged`: a point and its complement, exchanged;
* `Approximations.SearchedOnce`: the problems that both ways solve by one search, or by none;
* `Approximations.invert_of_low`, `Approximations.invert_of_high`: what the two ways come to;
* **`Approximations.invert_exchanged`**: inverses of exchanged problems are exchanged;
* **`quantile_exchanged`**: so are the answers of the two evaluators, and their failures correspond.
-/

import IncompleteBeta.Proofs.Arguments
import IncompleteBeta.Proofs.Asked
import IncompleteBeta.Proofs.Quantile

namespace IncompleteBeta

open Binary64 (InUnit abs_complement_error beq_iff inUnit_complement inUnit_of_le isFinite_half
  isFinite_zero le_iff lt_iff value value_zero)

/-- A point and its complement, exchanged. -/
def Quantile.exchanged (pair : Quantile) : Quantile := ⟨pair.complement, pair.value⟩

namespace Approximations

/-- **Problems that are solved by one search on both ways**, or by none: the tail of an end is asked
for, or the first guess is up to one half and that of the reflected problem is not, and the search
from the first guess does not find a root above one half. -/
inductive SearchedOnce (approximations : Approximations) (a b p q : Float) : Prop where
  | lowest (zero : (p == 0.0) = true) : SearchedOnce approximations a b p q
  | highest (zero : (q == 0.0) = true) : SearchedOnce approximations a b p q
  | inside (low : approximations.guess a b p q ≤ 0.5) (high : ¬approximations.guess b a q p ≤ 0.5)
      (root : ∀ x, approximations.solve a b p q (approximations.guess a b p q) = .ok x →
        ¬0.5 < x) :
      SearchedOnce approximations a b p q

section Ways

variable {approximations : Approximations} {a b p q : Float}

theorem invert_lowest (lowest : (p == 0.0) = true) :
    approximations.invert a b p q = .ok ⟨0.0, 1.0⟩ := by
  unfold invert
  rw [if_pos lowest]
  rfl

theorem invert_highest (not_lowest : ¬(p == 0.0) = true) (highest : (q == 0.0) = true) :
    approximations.invert a b p q = .ok ⟨1.0, 0.0⟩ := by
  unfold invert
  rw [if_neg not_lowest, if_pos highest]
  rfl

/-- A search that starts from the left and does not end above one half finds the point itself. -/
theorem invert_of_low (not_lowest : ¬(p == 0.0) = true) (not_highest : ¬(q == 0.0) = true)
    (low : approximations.guess a b p q ≤ 0.5)
    (root : ∀ x, approximations.solve a b p q (approximations.guess a b p q) = .ok x → x ≤ 0.5) :
    approximations.invert a b p q =
      (approximations.solve a b p q (approximations.guess a b p q)).map fun x => ⟨x, 1.0 - x⟩ := by
  unfold invert
  rw [if_neg not_lowest, if_neg not_highest]
  dsimp only
  rw [if_pos low]
  cases solved : approximations.solve a b p q (approximations.guess a b p q) with
  | error cause => rfl
  | ok x => exact if_pos (root x solved)

/-- A first guess on the right turns to the reflected problem, whose root is the complement. -/
theorem invert_of_high (not_lowest : ¬(p == 0.0) = true) (not_highest : ¬(q == 0.0) = true)
    (high : ¬approximations.guess a b p q ≤ 0.5) :
    approximations.invert a b p q =
      (approximations.solve b a q p (approximations.guess b a q p)).map
        fun y => ⟨1.0 - y, y⟩ := by
  unfold invert
  rw [if_neg not_lowest, if_neg not_highest]
  dsimp only
  rw [if_neg high, reflected]
  cases approximations.solve b a q p (approximations.guess b a q p) <;> rfl

/-- A root is at one half at most unless it is above it: it always is a number. -/
theorem le_half_of_solve {guess x : Float} (solved : approximations.solve a b p q guess = .ok x)
    (not_above : ¬0.5 < x) : x ≤ 0.5 := by
  have finite := (inUnit_solve solved).isFinite
  rw [lt_iff isFinite_half finite, not_lt] at not_above
  exact (le_iff finite isFinite_half).mpr not_above

/-- **Inverses of exchanged problems are exchanged**, or fail of the same cause. -/
theorem invert_exchanged (apart : ¬((p == 0.0) = true ∧ (q == 0.0) = true))
    (once : approximations.SearchedOnce a b p q) :
    approximations.invert b a q p = (approximations.invert a b p q).map Quantile.exchanged := by
  by_cases lowest : (p == 0.0) = true
  · have not_highest : ¬(q == 0.0) = true := fun highest => apart ⟨lowest, highest⟩
    rw [invert_highest not_highest lowest, invert_lowest lowest]
    rfl
  by_cases highest : (q == 0.0) = true
  · rw [invert_lowest highest, invert_highest lowest highest]
    rfl
  cases once with
  | lowest zero => exact absurd zero lowest
  | highest zero => exact absurd zero highest
  | inside low high root =>
    rw [invert_of_high highest lowest high,
      invert_of_low lowest highest low fun x solved => le_half_of_solve solved (root x solved)]
    cases approximations.solve a b p q (approximations.guess a b p q) <;> rfl

end Ways

section Evaluators

variable {approximations : Approximations} {a b p : Float}

/-- A probability and its complement are not both zero. -/
theorem not_both_zero (unit : InUnit p) : ¬((p == 0.0) = true ∧ (1.0 - p == 0.0) = true) := by
  rintro ⟨zero, otherZero⟩
  rw [beq_iff unit.isFinite isFinite_zero, value_zero] at zero
  rw [beq_iff (inUnit_complement unit).isFinite isFinite_zero, value_zero] at otherZero
  have error := abs_complement_error unit
  rw [zero, otherZero] at error
  norm_num at error

/-- **The two inverses for exchanged shapes**, by whatever approximations. -/
theorem upperQuantile_exchanged (shape : IsShape a) (otherShape : IsShape b) (unit : InUnit p)
    (once : approximations.SearchedOnce a b p (1.0 - p)) :
    Corresponds (.evaluator .upperQuantile) (.evaluator .quantile)
      (approximations.upperQuantile b a p)
      ((approximations.quantile a b p).map Quantile.exchanged) := by
  show Corresponds _ _ (attributeTo _ (checked "q" b a p (approximations.invert b a (1.0 - p) p)))
    ((attributeTo _ (checked "p" a b p (approximations.invert a b p (1.0 - p)))).map _)
  rw [checked_of_accepted ⟨otherShape, shape, unit⟩, checked_of_accepted ⟨shape, otherShape, unit⟩,
    ← attributeTo_map, invert_exchanged (not_both_zero unit) once]
  exact corresponds_attributeTo _ _ _

end Evaluators

end Approximations

/-- **The inverse for exchanged shapes is the inverse, exchanged**: the point whose upper tail is
`p` has for its value the complement and for its complement the value of the point whose lower tail
is `p` for the shapes in the other order, bit for bit, or both fail of the same cause, each in its
own name; and so they do where that name is handed down to all that can fail. This holds at the
ends, and wherever the search for the point starts on the left, does not end above one half, and is
the one that the reflected problem turns to. -/
theorem quantile_exchanged [Elementary] {a b p : Float} (shape : IsShape a) (otherShape : IsShape b)
    (unit : InUnit p) (once : Approximations.standard.SearchedOnce a b p (1.0 - p)) :
    Corresponds (.evaluator .upperQuantile) (.evaluator .quantile) (upperQuantile b a p)
        ((quantile a b p).map Quantile.exchanged) ∧
      Corresponds (.evaluator .upperQuantile) (.evaluator .quantile) (Asked.upperQuantile b a p)
        ((Asked.quantile a b p).map Quantile.exchanged) := by
  obtain ⟨lower, -⟩ := Asked.evaluators_eq a b p
  obtain ⟨-, upper, -⟩ := Asked.evaluators_eq b a p
  rw [lower, upper]
  have same := Approximations.upperQuantile_exchanged shape otherShape unit once
  exact ⟨same, same⟩

/-- The lower quarter for the shapes 2 and 3 is found by one search, which ends below one half. -/
theorem quantile_exchanged_quarter : IsShape 2.0 ∧ IsShape 3.0 ∧ InUnit 0.25 ∧
    Approximations.standard.SearchedOnce 2.0 3.0 0.25 (1.0 - 0.25) ∧
    solve 2.0 3.0 0.25 (1.0 - 0.25) (firstGuess 2.0 3.0 0.25 (1.0 - 0.25)) =
      .ok 0.24302208375607662 ∧
    Corresponds (.evaluator .upperQuantile) (.evaluator .quantile) (upperQuantile 3.0 2.0 0.25)
      ((quantile 2.0 3.0 0.25).map Quantile.exchanged) := by
  have shape : IsShape 2.0 := isShape_iff.mpr (by decide +kernel)
  have otherShape : IsShape 3.0 := isShape_iff.mpr (by decide +kernel)
  have unit : InUnit 0.25 := inUnit_of_le (by decide +kernel) (by decide +kernel)
  have solved : solve 2.0 3.0 0.25 (1.0 - 0.25) (firstGuess 2.0 3.0 0.25 (1.0 - 0.25)) =
      .ok 0.24302208375607662 := eq_ok_of_toOption (by decide +kernel)
  have once : Approximations.standard.SearchedOnce 2.0 3.0 0.25 (1.0 - 0.25) := by
    refine .inside (by decide +kernel) (by decide +kernel) fun x found => ?_
    have same : x = 0.24302208375607662 := Except.ok.inj (found.symm.trans solved)
    rw [same]
    decide +kernel
  exact ⟨shape, otherShape, unit, once, solved,
    (quantile_exchanged shape otherShape unit once).1⟩

end IncompleteBeta
