/-
**Confidence bounds at all counts.**

Counts are words of 64 bits, and a bound asks an inverse for shapes that are derived from them.

* `rounds_count`, `isShape_count`: a positive count is a shape, and the double nearest to it;
* `Bound`: an inverse, the shapes to ask it for, and the counts at which it is not asked;
* `Refuses`: the first argument that a bound refuses, the counts before the probability;
* `Bound.Answers`: what a bound comes to, with the shapes in exact numbers;
* `Reckoned`: the bounds in integers that break off where a word would overflow;
* **`bounds_answer`**: the bounds answer so at all counts and doubles, and nothing overflows.
-/

import IncompleteBeta.Proofs.Causes
import IncompleteBeta.Proofs.Decimal.Scaling
import IncompleteBeta.Proofs.Words

namespace IncompleteBeta

open Binary64 (InUnit Rounds onGrid_one onGrid_zpow le_rounded_of_onGrid rounds_normalize value)

/-! ### Counts -/

/-- A count is converted to the double nearest to it. -/
theorem rounds_count (count : UInt64) : Rounds count.toFloat count.toNat := by
  have rounds := rounds_normalize count.toNat 0 .positive
  rw [zpow_zero, mul_one, Int.cast_natCast] at rounds
  exact rounds

/-- **A positive count is a shape.** -/
theorem isShape_count {count : UInt64} (positive : 0 < count.toNat) : IsShape count.toFloat := by
  have below : (count.toNat : ℝ) ≤ 2 ^ (64 : ℤ) := by exact_mod_cast count.toNat_lt.le
  have above : (1 : ℝ) ≤ count.toNat := by exact_mod_cast positive
  obtain ⟨finite, value_eq⟩ := (rounds_count count).isFinite_of_le (Nat.cast_nonneg _) below
    (onGrid_zpow (by norm_num)) (zpow_lt_range (by norm_num))
  refine ⟨finite, ?_⟩
  rw [value_eq]
  exact one_pos.trans_le (le_rounded_of_onGrid onGrid_one above)

/-! ### Bounds -/

/-- **How a bound is had from an inverse.** -/
structure Bound where
  routine : Routine
  evaluator : Evaluator
  inverse : (a b level : Float) → Except Failure Quantile
  /-- The counts at which the bound is certain, after so many successes in so many trials. -/
  certain : (trials successes : Nat) → Prop
  /-- The bound where it is certain. -/
  limit : Float
  /-- The shapes to ask the inverse for, in exact numbers. -/
  shapes : (trials successes : Nat) → Nat × Nat

/-- The upper bound is 1 when every trial succeeded, and otherwise the point whose upper tail for
`k + 1` and `n - k` is the probability. -/
def Bound.upper [Elementary] : Bound where
  routine := .successUpperBound
  evaluator := .upperQuantile
  inverse := upperQuantile
  certain trials successes := successes = trials
  limit := 1.0
  shapes trials successes := (successes + 1, trials - successes)

/-- The lower bound is 0 when no trial succeeded, and otherwise the point whose lower tail for `k`
and `n - k + 1` is the probability. -/
def Bound.lower [Elementary] : Bound where
  routine := .successLowerBound
  evaluator := .quantile
  inverse := quantile
  certain _ successes := successes = 0
  limit := 0.0
  shapes trials successes := (successes, trials - successes + 1)

/-- **The first argument that a bound refuses**: more successes than trials, whatever the
probability, and then a probability that is none. -/
inductive Refuses (n k : UInt64) (proba : Float) : Cause → Prop where
  | counts (more : n < k) : Refuses n k proba (.domain "k" k.toFloat .atMostTrials)
  | level (enough : k ≤ n) (refused : ¬InUnit proba) :
      Refuses n k proba (.domain "proba" proba .unitInterval)

/-- **What a bound comes to.** -/
structure Bound.Answers (bound : Bound) (n k : UInt64) (proba : Float)
    (result : Except Failure Float) : Prop where
  named : ∀ failure, result = .error failure → failure.routine = bound.routine
  /-- The domain is failed of the argument that is refused, and of nothing else. -/
  domain_iff : ∀ cause, Refuses n k proba cause ↔
    result = .error ⟨bound.routine, cause⟩ ∧ cause.kind = .domain
  settled : k ≤ n → InUnit proba → bound.certain n.toNat k.toNat → result = .ok bound.limit
  /-- Elsewhere the inverse answers for shapes that it accepts, the doubles nearest to the exact
  ones: with its value, or with the cause of its failure under the name of the bound. -/
  asked : k ≤ n → InUnit proba → ¬bound.certain n.toNat k.toNat →
    ∃ a b, Rounds a (bound.shapes n.toNat k.toNat).1 ∧ Rounds b (bound.shapes n.toNat k.toNat).2 ∧
      IsShape a ∧ IsShape b ∧
      Corresponds bound.routine (.evaluator bound.evaluator) result
        ((bound.inverse a b proba).map Quantile.value)

/-! ### Asking an inverse -/

/-- A value of an inverse, or its failure under another name. -/
def delegated (routine : Routine) (inverse : Except Failure Quantile) : Except Failure Float :=
  attributeTo routine do
    let root ← causeOf inverse
    return root.value

/-- A bound behind its checks: certain at some counts, and delegated at the others. -/
def bounded (routine : Routine) (n k : UInt64) (proba : Float) (certain : Prop)
    [Decidable certain] (limit : Float) (inverse : Except Failure Quantile) :
    Except Failure Float :=
  attributeTo routine do
    requireCounts n k
    requireUnit "proba" proba
    if certain then return limit
    let root ← causeOf inverse
    return root.value

theorem successUpperBound_eq [Elementary] (n k : UInt64) (proba : Float) :
    successUpperBound n k proba =
      bounded .successUpperBound n k proba (k = n) 1.0
        (upperQuantile (k + 1).toFloat (n - k).toFloat proba) := rfl

theorem successLowerBound_eq [Elementary] (n k : UInt64) (proba : Float) :
    successLowerBound n k proba =
      bounded .successLowerBound n k proba (k = 0) 0.0
        (quantile k.toFloat (n - k + 1).toFloat proba) := rfl

section Delegation

variable {routine : Routine} {evaluator : Evaluator} {a b arg : Float}
  {inverse : Except Failure Quantile}

theorem delegated_error (failure : Failure) :
    delegated routine (.error failure) = .error ⟨routine, failure.cause⟩ := rfl

/-- What is delegated comes back under another name only. -/
theorem corresponds_delegated (classified : Classified evaluator a b arg inverse) :
    Corresponds routine (.evaluator evaluator) (delegated routine inverse)
      (inverse.map Quantile.value) := by
  cases outcome : inverse with
  | ok pair => exact .values pair.value
  | error failure =>
    obtain ⟨asked, cause⟩ := failure
    have named : asked = .evaluator evaluator := classified.named _ outcome
    subst named
    exact .failures cause

/-- Of accepted arguments an inverse fails of no domain, and neither does what is delegated to
it. -/
theorem not_domain_of_delegated (classified : Classified evaluator a b arg inverse)
    (accepted : IsShape a ∧ IsShape b ∧ InUnit arg) {cause : Cause}
    (failed : delegated routine inverse = .error ⟨routine, cause⟩) : cause.kind ≠ .domain := by
  cases outcome : inverse with
  | ok pair =>
    rw [outcome] at failed
    cases failed
  | error failure =>
    rw [outcome, delegated_error] at failed
    cases failed
    exact fun domain => classified.domain_iff.mp ⟨failure, outcome, domain⟩ accepted

end Delegation

section Checks

variable {routine : Routine} {n k : UInt64} {proba : Float} {certain : Prop} [Decidable certain]
  {limit : Float} {inverse : Except Failure Quantile} {cause : Cause}

theorem requireCounts_of_le (enough : k ≤ n) : requireCounts n k = .ok () := if_pos enough

theorem requireCounts_of_lt (more : n < k) :
    requireCounts n k = .error (.domain "k" k.toFloat .atMostTrials) :=
  if_neg (UInt64.not_le.mpr more)

/-- Arguments are refused, or the counts are in order and the probability is one. -/
theorem refuses_or_accepts (n k : UInt64) (proba : Float) :
    (∃ cause, Refuses n k proba cause) ∨ k ≤ n ∧ InUnit proba := by
  by_cases enough : k ≤ n
  · by_cases unit : InUnit proba
    · exact Or.inr ⟨enough, unit⟩
    · exact Or.inl ⟨_, .level enough unit⟩
  · exact Or.inl ⟨_, .counts (UInt64.not_le.mp enough)⟩

theorem Refuses.kind (refuses : Refuses n k proba cause) : cause.kind = .domain := by
  cases refuses <;> rfl

/-- The first argument that is refused is what the bound fails of. -/
theorem bounded_of_refuses (refuses : Refuses n k proba cause) :
    bounded routine n k proba certain limit inverse = .error ⟨routine, cause⟩ := by
  unfold bounded
  cases refuses with
  | counts more =>
    rw [requireCounts_of_lt more]
    rfl
  | level enough refused =>
    rw [requireCounts_of_le enough, requireUnit_of_not_inUnit refused]
    rfl

/-- Accepted arguments leave the certain counts and the others. -/
theorem bounded_of_accepts (enough : k ≤ n) (unit : InUnit proba) :
    bounded routine n k proba certain limit inverse =
      if certain then .ok limit else delegated routine inverse := by
  unfold bounded
  rw [requireCounts_of_le enough, requireUnit_of_inUnit unit]
  split_ifs <;> rfl

end Checks

/-- **A bound answers as it should** where the inverse is asked for the doubles nearest to the exact
shapes, both positive. -/
theorem Bound.answers_bounded (bound : Bound) {n k : UInt64} {proba : Float} {certain : Prop}
    [Decidable certain] {a b : UInt64} (settles : certain ↔ bound.certain n.toNat k.toNat)
    (classified : Classified bound.evaluator a.toFloat b.toFloat proba
      (bound.inverse a.toFloat b.toFloat proba))
    (exact : k ≤ n → ¬certain →
      (a.toNat, b.toNat) = bound.shapes n.toNat k.toNat ∧ 0 < a.toNat ∧ 0 < b.toNat) :
    bound.Answers n k proba (bounded bound.routine n k proba certain bound.limit
      (bound.inverse a.toFloat b.toFloat proba)) where
  named := fun failure failed => (attributeTo_eq_error.mp failed).1
  domain_iff := by
    intro cause
    constructor
    · exact fun refuses => ⟨bounded_of_refuses refuses, refuses.kind⟩
    rintro ⟨failed, domain⟩
    rcases refuses_or_accepts n k proba with ⟨first, refuses⟩ | ⟨enough, unit⟩
    · rw [bounded_of_refuses refuses] at failed
      cases failed
      exact refuses
    rw [bounded_of_accepts enough unit] at failed
    by_cases settled : certain
    · rw [if_pos settled] at failed
      cases failed
    · rw [if_neg settled] at failed
      obtain ⟨-, positive, restPositive⟩ := exact enough settled
      exact absurd domain (not_domain_of_delegated classified
        ⟨isShape_count positive, isShape_count restPositive, unit⟩ failed)
  settled := by
    intro enough unit settled
    rw [bounded_of_accepts enough unit, if_pos (settles.mpr settled)]
  asked := by
    intro enough unit unsettled
    rw [← settles] at unsettled
    obtain ⟨shapes, positive, restPositive⟩ := exact enough unsettled
    refine ⟨a.toFloat, b.toFloat, ?_, ?_, isShape_count positive, isShape_count restPositive, ?_⟩
    · rw [← shapes]
      exact rounds_count a
    · rw [← shapes]
      exact rounds_count b
    · rw [bounded_of_accepts enough unit, if_neg unsettled]
      exact corresponds_delegated classified

/-! ### Words that do not overflow -/

namespace Reckoned

/-- A number that fits a word of 64 bits, as a double. -/
def double (n : Int) : Float := (UInt64.ofNat n.toNat).toFloat

/-- A bound behind its checks, where the inverse may break off before it is asked. -/
def bounded (routine : Routine) (n k : UInt64) (proba : Float) (certain : Prop)
    [Decidable certain] (limit : Float) (inverse? : Option (Except Failure Quantile)) :
    Option (Except Failure Float) :=
  match (do requireCounts n k; requireUnit "proba" proba : Except Cause Unit) with
  | .error cause => some (.error ⟨routine, cause⟩)
  | .ok () => if certain then some (.ok limit) else inverse?.map (delegated routine)

/-- The inverse for the upper bound, where its shapes fit. -/
def askUpper? [Elementary] (n k : UInt64) (proba : Float) : Option (Except Failure Quantile) := do
  let a ← Word.unsigned64.fit? (k.toNat + 1)
  let b ← Word.unsigned64.fit? (n.toNat - k.toNat)
  return upperQuantile (double a) (double b) proba

/-- The inverse for the lower bound, where its shapes fit. -/
def askLower? [Elementary] (n k : UInt64) (proba : Float) : Option (Except Failure Quantile) := do
  let failures ← Word.unsigned64.fit? (n.toNat - k.toNat)
  let b ← Word.unsigned64.fit? (failures + 1)
  return quantile (double k.toNat) (double b) proba

def successUpperBound [Elementary] (n k : UInt64) (proba : Float) : Option (Except Failure Float) :=
  bounded .successUpperBound n k proba (k = n) 1.0 (askUpper? n k proba)

def successLowerBound [Elementary] (n k : UInt64) (proba : Float) : Option (Except Failure Float) :=
  bounded .successLowerBound n k proba (k = 0) 0.0 (askLower? n k proba)

section Reckoning

variable {routine : Routine} {n k : UInt64} {proba : Float} {certain : Prop} [Decidable certain]
  {limit : Float} {inverse : Except Failure Quantile} {inverse? : Option (Except Failure Quantile)}

/-- **Nothing breaks off** where the inverse is asked for shapes that fit. -/
theorem bounded_eq (fits : k ≤ n → ¬certain → inverse? = some inverse) :
    bounded routine n k proba certain limit inverse? =
      some (IncompleteBeta.bounded routine n k proba certain limit inverse) := by
  rcases refuses_or_accepts n k proba with ⟨cause, refuses⟩ | ⟨enough, unit⟩
  · rw [bounded_of_refuses refuses]
    unfold bounded
    cases refuses with
    | counts more =>
      rw [requireCounts_of_lt more]
      rfl
    | level enough refused =>
      rw [requireCounts_of_le enough, requireUnit_of_not_inUnit refused]
      rfl
  · rw [bounded_of_accepts enough unit]
    unfold bounded
    rw [requireCounts_of_le enough, requireUnit_of_inUnit unit]
    show (if certain then _ else _) = _
    split_ifs with settled
    · rfl
    · rw [fits enough settled]
      rfl

theorem double_toNat (n : UInt64) : double n.toNat = n.toFloat := by
  rw [double, Int.toNat_natCast, UInt64.ofNat_toNat]

end Reckoning

end Reckoned

section Words

variable {n k : UInt64}

/-- What `k + 1` and `n - k` come to, as long as `k` is less than `n`. -/
theorem upper_shapes (enough : k ≤ n) (fewer : k ≠ n) :
    (k + 1).toNat = k.toNat + 1 ∧ (n - k).toNat = n.toNat - k.toNat ∧ 0 < (n - k).toNat := by
  have below : k.toNat < n.toNat := by
    have le := UInt64.le_iff_toNat_le.mp enough
    have ne : k.toNat ≠ n.toNat := fun same => fewer (UInt64.toNat_inj.mp same)
    omega
  have range := n.toNat_lt
  rw [UInt64.toNat_add, UInt64.toNat_sub_of_le n k enough]
  refine ⟨Nat.mod_eq_of_lt ?_, rfl, ?_⟩
  · show k.toNat + 1 < _
    omega
  · omega

/-- What `n - k` and `n - k + 1` come to, as long as `k` is not zero. -/
theorem lower_shapes (enough : k ≤ n) (nonzero : k ≠ 0) :
    (n - k + 1).toNat = n.toNat - k.toNat + 1 ∧ 0 < k.toNat := by
  have positive : 0 < k.toNat := by
    refine Nat.pos_of_ne_zero fun zero => nonzero (UInt64.toNat_inj.mp ?_)
    rw [zero]
    rfl
  have range := n.toNat_lt
  rw [UInt64.toNat_add, UInt64.toNat_sub_of_le n k enough]
  refine ⟨Nat.mod_eq_of_lt ?_, positive⟩
  show n.toNat - k.toNat + 1 < _
  omega

theorem Reckoned.askUpper?_eq [Elementary] (enough : k ≤ n) (fewer : k ≠ n) (proba : Float) :
    askUpper? n k proba = some (upperQuantile (k + 1).toFloat (n - k).toFloat proba) := by
  obtain ⟨first, second, -⟩ := upper_shapes enough fewer
  have le := UInt64.le_iff_toNat_le.mp enough
  have first_eq : (k.toNat : Int) + 1 = (k + 1).toNat := by omega
  have second_eq : (n.toNat : Int) - k.toNat = (n - k).toNat := by omega
  unfold askUpper?
  rw [first_eq, Word.fit?_bind (Word.fits_unsigned64 (UInt64.toNat_lt _)), second_eq,
    Word.fit?_bind (Word.fits_unsigned64 (UInt64.toNat_lt _)), double_toNat, double_toNat]
  rfl

theorem Reckoned.askLower?_eq [Elementary] (enough : k ≤ n) (nonzero : k ≠ 0) (proba : Float) :
    askLower? n k proba = some (quantile k.toFloat (n - k + 1).toFloat proba) := by
  obtain ⟨second, -⟩ := lower_shapes enough nonzero
  have le := UInt64.le_iff_toNat_le.mp enough
  have failures := UInt64.toNat_sub_of_le n k enough
  have failures_eq : (n.toNat : Int) - k.toNat = (n - k).toNat := by omega
  have second_eq : ((n - k).toNat : Int) + 1 = (n - k + 1).toNat := by omega
  unfold askLower?
  rw [failures_eq, Word.fit?_bind (Word.fits_unsigned64 (UInt64.toNat_lt _)), second_eq,
    Word.fit?_bind (Word.fits_unsigned64 (UInt64.toNat_lt _)), double_toNat, double_toNat]
  rfl

end Words

/-- **The bounds at all counts and any probability.** They refuse more successes than trials before
a probability that is none, and fail of no other domain; they are certain at one end of the counts,
and elsewhere the inverse answers for them, for the doubles nearest to the exact shapes, which are
positive and finite. The counts that are derived on the way fit their words, wherever they are. -/
theorem bounds_answer [Elementary] (n k : UInt64) (proba : Float) :
    Bound.upper.Answers n k proba (successUpperBound n k proba) ∧
      Bound.lower.Answers n k proba (successLowerBound n k proba) ∧
      Reckoned.successUpperBound n k proba = some (successUpperBound n k proba) ∧
      Reckoned.successLowerBound n k proba = some (successLowerBound n k proba) := by
  refine ⟨?_, ?_, ?_, ?_⟩
  · have settles : k = n ↔ Bound.upper.certain n.toNat k.toNat := UInt64.toNat_inj.symm
    refine Bound.upper.answers_bounded (a := k + 1) (b := n - k) settles
      (classified_upperQuantile _ _ _) fun enough fewer => ?_
    obtain ⟨first, second, positive⟩ := upper_shapes enough fewer
    exact ⟨Prod.ext first second, by omega, positive⟩
  · have settles : k = 0 ↔ Bound.lower.certain n.toNat k.toNat := UInt64.toNat_inj.symm
    refine Bound.lower.answers_bounded (a := k) (b := n - k + 1) settles
      (classified_quantile _ _ _) fun enough nonzero => ?_
    obtain ⟨second, positive⟩ := lower_shapes enough nonzero
    exact ⟨Prod.ext rfl second, positive, by omega⟩
  · rw [successUpperBound_eq]
    exact Reckoned.bounded_eq fun enough fewer => Reckoned.askUpper?_eq enough fewer proba
  · rw [successLowerBound_eq]
    exact Reckoned.bounded_eq fun enough nonzero => Reckoned.askLower?_eq enough nonzero proba

end IncompleteBeta
