/-
**What an evaluator can fail of.**

Failures arise in few places: at the arguments, in the prefactor, in a round of a fraction, and
where the rounds of a fraction or of the search are used up. An evaluator can fail of nothing else:

* `roundCap_comm`: mirrored arguments have the same number of rounds;
* `TailsCause`, `InverseCause`: what tails and inverses of accepted arguments can fail of;
* `cause_of_tails`, `cause_of_solve`, `cause_of_invert`: nothing else comes from below;
* `Evaluator.Raises`: all that an evaluator can fail of, with the arguments at which it can;
* `Classified`: what is said of the failures of an evaluator;
* **`failures_classified`**: the four evaluators at any doubles.
-/

import IncompleteBeta.Proofs.Arguments
import IncompleteBeta.Proofs.Asked
import IncompleteBeta.Proofs.Binary64.Symmetry

namespace IncompleteBeta

open Binary64 (InUnit)

/-! ### Tails -/

/-- **What the tails for two shapes can fail of**: a fraction that used up its rounds, or a quantity
that is not finite. -/
inductive TailsCause (a b : Float) : Cause → Prop where
  | exhausted : TailsCause a b (.noConvergence (roundCap a b))
  | notFinite (quantity : Quantity) : TailsCause a b (.notFinite quantity)

/-- A fraction has as many rounds for the mirrored arguments. -/
theorem roundCap_comm (a b : Float) : roundCap a b = roundCap b a := by
  unfold roundCap
  rw [Binary64.product_comm a b, Binary64.sum_comm a b]

theorem TailsCause.exchange {a b : Float} {cause : Cause} (from_mirrored : TailsCause b a cause) :
    TailsCause a b cause := by
  cases from_mirrored with
  | exhausted =>
    rw [roundCap_comm]
    exact .exhausted
  | notFinite quantity => exact .notFinite quantity

section Tails

variable {a b x y lnBeta driving : Float} {cause : Cause}

theorem cause_of_prefactor [Elementary] (failed : prefactor a b x y lnBeta = .error cause) :
    TailsCause a b cause := by
  unfold prefactor at failed
  dsimp only at failed
  split_ifs at failed
  cases failed
  exact .notFinite .prefactor

theorem cause_of_classicalRound {state : LentzState}
    (failed : classicalRound a b x state = .failed cause) : cause = .notFinite .fraction := by
  unfold classicalRound at failed
  dsimp only at failed
  split_ifs at failed
  cases failed
  rfl

theorem cause_of_scaledRound {state : ScaledState}
    (failed : scaledRound a b x y driving state = .failed cause) :
    cause = .notFinite .fraction := by
  unfold scaledRound at failed
  dsimp only at failed
  split_ifs at failed
  cases failed
  rfl

theorem cause_of_classicalFraction (failed : classicalFraction a b x y = .error cause) :
    TailsCause a b cause := by
  rcases iterate_eq_error _ failed with rfl | ⟨last, diverged⟩
  · exact .exhausted
  · rw [cause_of_classicalRound diverged]
    exact .notFinite .fraction

theorem cause_of_scaledFraction (failed : scaledFraction a b x y driving = .error cause) :
    TailsCause a b cause := by
  rcases iterate_eq_error _ failed with rfl | ⟨last, diverged⟩
  · exact .exhausted
  · rw [cause_of_scaledRound diverged]
    exact .notFinite .fraction

theorem cause_of_factors [Elementary] {route : Route}
    (failed : route.factors a b x y lnBeta = .error cause) : TailsCause a b cause := by
  rcases bind_eq_error.mp failed with failed | ⟨factor, _, failed⟩
  · exact cause_of_prefactor failed
  cases route with
  | scaled side driving =>
    rcases bind_eq_error.mp failed with failed | ⟨_, _, impossible⟩
    · exact cause_of_scaledFraction failed
    · cases impossible
  | classical side =>
    rcases bind_eq_error.mp failed with failed | ⟨_, _, impossible⟩
    · exact cause_of_classicalFraction failed
    · cases impossible

/-- The upper tail is computed with the shapes exchanged, and fails of the same. -/
theorem cause_of_factorsAt [Elementary] {route : Route}
    (failed : route.factorsAt a b x lnBeta = .error cause) : TailsCause a b cause := by
  unfold Route.factorsAt at failed
  cases side : route.side with
  | lower =>
    rw [side] at failed
    exact cause_of_factors failed
  | upper =>
    rw [side] at failed
    exact (cause_of_factors failed).exchange

theorem cause_of_tails [Elementary] (failed : tails a b x lnBeta = .error cause) :
    TailsCause a b cause := by
  unfold tails at failed
  split_ifs at failed
  rcases bind_eq_error.mp failed with failed | ⟨_, _, impossible⟩
  · exact cause_of_factorsAt failed
  · cases impossible

end Tails

/-! ### Inverses -/

/-- **What the inverses for two shapes can fail of**: what the tails fail of, or a search that used
up its rounds. -/
inductive InverseCause (a b : Float) : Cause → Prop where
  | tails (cause : Cause) (from_tails : TailsCause a b cause) : InverseCause a b cause
  | exhausted : InverseCause a b (.noConvergence searchRounds)

theorem InverseCause.exchange {a b : Float} {cause : Cause}
    (from_mirrored : InverseCause b a cause) : InverseCause a b cause := by
  cases from_mirrored with
  | tails cause from_tails => exact .tails cause from_tails.exchange
  | exhausted => exact .exhausted

section Inverses

variable {a b p q guess : Float} {cause : Cause}

/-- A round of the search fails of nothing but the tails at its point. -/
theorem cause_of_round [Elementary] {search : Search} {bracket : Bracket}
    (failed : Approximations.standard.round search bracket = .failed cause) :
    TailsCause search.a search.b cause := by
  rw [round_eq_proceed] at failed
  cases outcome : tails search.a search.b bracket.point search.lnBeta with
  | error raised =>
    rw [outcome] at failed
    cases failed
    exact cause_of_tails outcome
  | ok both =>
    rw [outcome] at failed
    dsimp only at failed
    unfold Search.proceed at failed
    dsimp only at failed
    split_ifs at failed

theorem cause_of_solve [Elementary] (failed : solve a b p q guess = .error cause) :
    InverseCause a b cause := by
  rcases iterate_eq_error _ failed with rfl | ⟨last, raised⟩
  · exact .exhausted
  · exact .tails cause (cause_of_round raised)

theorem cause_of_reflected [Elementary]
    (failed : Approximations.standard.reflected a b p q guess = .error cause) :
    InverseCause a b cause := by
  rcases bind_eq_error.mp failed with failed | ⟨_, _, impossible⟩
  · exact (cause_of_solve failed).exchange
  · cases impossible

theorem cause_of_invert [Elementary] (failed : invert a b p q = .error cause) :
    InverseCause a b cause := by
  unfold invert Approximations.invert at failed
  by_cases lowest : (p == 0.0) = true
  · rw [if_pos lowest] at failed
    cases failed
  rw [if_neg lowest] at failed
  by_cases highest : (q == 0.0) = true
  · rw [if_pos highest] at failed
    cases failed
  rw [if_neg highest] at failed
  dsimp only at failed
  by_cases low : Approximations.standard.guess a b p q ≤ 0.5
  · rw [if_pos low] at failed
    rcases bind_eq_error.mp failed with failed | ⟨x, _, failed⟩
    · exact cause_of_solve failed
    · split_ifs at failed
      · cases failed
      · exact cause_of_reflected failed
  · rw [if_neg low] at failed
    exact cause_of_reflected failed

end Inverses

/-! ### Evaluators -/

namespace Evaluator

/-- The name of the last argument: a probability of either tail, or a point. -/
def parameter : Evaluator → String
  | .quantile => "p"
  | .upperQuantile => "q"
  | .lowerTail | .upperTail => "x"

def isInverse : Evaluator → Bool
  | .quantile | .upperQuantile => true
  | .lowerTail | .upperTail => false

/-- **Everything that an evaluator can raise**: the refusal of an argument, and where all are
accepted what its tails fail of, or its search if it is an inverse. -/
inductive Raises (evaluator : Evaluator) (a b arg : Float) : Cause → Prop where
  | refused (cause : Cause) (offends : Offends evaluator.parameter a b arg cause) :
      evaluator.Raises a b arg cause
  | tails (cause : Cause) (accepted : IsShape a ∧ IsShape b ∧ InUnit arg)
      (from_tails : TailsCause a b cause) : evaluator.Raises a b arg cause
  | search (accepted : IsShape a ∧ IsShape b ∧ InUnit arg) (inverse : evaluator.isInverse = true) :
      evaluator.Raises a b arg (.noConvergence searchRounds)

section Raising

variable {evaluator : Evaluator} {a b arg : Float} {cause : Cause}

theorem Raises.offends (raises : evaluator.Raises a b arg cause)
    (domain : cause.kind = .domain) : Offends evaluator.parameter a b arg cause := by
  cases raises with
  | refused _ offends => exact offends
  | tails _ _ from_tails => cases from_tails <;> cases domain
  | search => cases domain

theorem Raises.computing (raises : evaluator.Raises a b arg cause)
    (other : cause.kind ≠ .domain) :
    (∃ rounds, cause = .noConvergence rounds ∧ cause.kind = .convergence) ∨
      ∃ quantity, cause = .notFinite quantity ∧ cause.kind = .evaluation := by
  cases raises with
  | refused _ offends => exact absurd offends.kind other
  | tails _ _ from_tails =>
    cases from_tails with
    | exhausted => exact Or.inl ⟨_, rfl, rfl⟩
    | notFinite quantity => exact Or.inr ⟨quantity, rfl, rfl⟩
  | search => exact Or.inl ⟨_, rfl, rfl⟩

theorem Raises.rounds {rounds : Nat}
    (raises : evaluator.Raises a b arg (.noConvergence rounds)) :
    rounds = roundCap a b ∨ evaluator.isInverse = true ∧ rounds = searchRounds := by
  cases raises with
  | refused _ offends => cases offends
  | tails _ _ from_tails =>
    cases from_tails
    exact Or.inl rfl
  | search _ inverse => exact Or.inr ⟨inverse, rfl⟩

/-- An evaluator raises what is found behind its checks, or what they do. -/
theorem raises_of_checked {α : Type} {result : Except Cause α}
    (below : ∀ cause, result = .error cause →
      TailsCause a b cause ∨ evaluator.isInverse = true ∧ InverseCause a b cause)
    (failed : checked evaluator.parameter a b arg result = .error cause) :
    evaluator.Raises a b arg cause := by
  rcases accepted_or_offends evaluator.parameter a b arg with accepted | ⟨refusal, offends⟩
  · rw [checked_of_accepted accepted] at failed
    rcases below cause failed with from_tails | ⟨inverse, from_search⟩
    · exact .tails cause accepted from_tails
    · cases from_search with
      | tails _ from_tails => exact .tails cause accepted from_tails
      | exhausted => exact .search accepted inverse
  · rw [checked_of_offends offends] at failed
    cases failed
    exact .refused _ offends

end Raising

end Evaluator

/-- **What is said of the failures of an evaluator** at any arguments. -/
structure Classified {α : Type} (evaluator : Evaluator) (a b arg : Float)
    (result : Except Failure α) : Prop where
  /-- Every failure names the evaluator that was asked. -/
  named : ∀ failure, result = .error failure → failure.routine = .evaluator evaluator
  /-- The domain is failed exactly where an argument is not accepted. -/
  domain_iff : (∃ failure, result = .error failure ∧ failure.kind = .domain) ↔
    ¬(IsShape a ∧ IsShape b ∧ InUnit arg)
  /-- Such a failure is about the first argument that is refused, and there always is one. -/
  offender : ∀ cause, Offends evaluator.parameter a b arg cause ↔
    result = .error ⟨.evaluator evaluator, cause⟩ ∧ cause.kind = .domain
  /-- All other failures are of the computation. -/
  others : ∀ failure, result = .error failure → failure.kind ≠ .domain →
    (∃ rounds, failure.cause = .noConvergence rounds ∧ failure.kind = .convergence) ∨
      ∃ quantity, failure.cause = .notFinite quantity ∧ failure.kind = .evaluation
  /-- Rounds are used up all of them: those of a fraction, or, by an inverse only, of the search. -/
  rounds : ∀ routine rounds, result = .error ⟨routine, .noConvergence rounds⟩ →
    rounds = roundCap a b ∨ evaluator.isInverse = true ∧ rounds = 300

section Classified

variable {α β : Type} {evaluator : Evaluator} {a b arg : Float}

/-- What is behind the checks does not fail of a domain, and the rest is in what may be raised. -/
theorem classified_of_checked {result : Except Cause α}
    (below : ∀ cause, result = .error cause →
      TailsCause a b cause ∨ evaluator.isInverse = true ∧ InverseCause a b cause) :
    Classified evaluator a b arg
      (attributeTo (.evaluator evaluator) (checked evaluator.parameter a b arg result)) := by
  have raises (failure : Failure) (failed : attributeTo (.evaluator evaluator)
      (checked evaluator.parameter a b arg result) = .error failure) :
      evaluator.Raises a b arg failure.cause :=
    Evaluator.raises_of_checked below (attributeTo_eq_error.mp failed).2
  have refuses (cause : Cause) (offends : Offends evaluator.parameter a b arg cause) :
      attributeTo (.evaluator evaluator) (checked evaluator.parameter a b arg result) =
        .error ⟨.evaluator evaluator, cause⟩ :=
    attributeTo_eq_error.mpr ⟨rfl, checked_of_offends offends⟩
  constructor
  case named => exact fun failure failed => (attributeTo_eq_error.mp failed).1
  case domain_iff =>
    constructor
    · rintro ⟨failure, failed, domain⟩
      exact ((raises failure failed).offends domain).not_accepted
    · intro refused
      obtain ⟨cause, offends⟩ :=
        (accepted_or_offends evaluator.parameter a b arg).resolve_left refused
      exact ⟨_, refuses cause offends, offends.kind⟩
  case offender =>
    intro cause
    constructor
    · exact fun offends => ⟨refuses cause offends, offends.kind⟩
    · rintro ⟨failed, domain⟩
      exact (raises _ failed).offends domain
  case others => exact fun failure failed other => (raises failure failed).computing other
  case rounds => exact fun routine rounds failed => (raises _ failed).rounds

theorem Classified.map {result : Except Failure α}
    (classified : Classified evaluator a b arg result) (f : α → β) :
    Classified evaluator a b arg (result.map f) := by
  have same : ∀ failure, result.map f = .error failure ↔ result = .error failure :=
    fun _ => map_eq_error
  constructor
  all_goals simp only [same]
  exacts [classified.named, classified.domain_iff, classified.offender, classified.others,
    classified.rounds]

theorem classified_quantile [Elementary] (a b p : Float) :
    Classified .quantile a b p (quantile a b p) :=
  classified_of_checked fun _ failed => Or.inr ⟨rfl, cause_of_invert failed⟩

theorem classified_upperQuantile [Elementary] (a b q : Float) :
    Classified .upperQuantile a b q (upperQuantile a b q) :=
  classified_of_checked fun _ failed => Or.inr ⟨rfl, cause_of_invert failed⟩

theorem classified_lowerTail [Elementary] (a b x : Float) :
    Classified .lowerTail a b x (lowerTail a b x) := by
  rw [lowerTail, attributeTo_map]
  exact (classified_of_checked fun _ failed => Or.inl (cause_of_tails failed)).map _

theorem classified_upperTail [Elementary] (a b x : Float) :
    Classified .upperTail a b x (upperTail a b x) := by
  rw [upperTail, attributeTo_map]
  exact (classified_of_checked fun _ failed => Or.inl (cause_of_tails failed)).map _

end Classified

/-- **The failures of the evaluators**, at any doubles: a domain is failed exactly where an argument
is refused, of the first such argument; all other failures are of the computation, and used-up
rounds are those of a fraction or of a search; and each failure names the evaluator that was asked,
however deep it arises, as if that name had been handed down to where it does. -/
theorem failures_classified [Elementary] (a b arg : Float) :
    (Classified .quantile a b arg (quantile a b arg) ∧
      Classified .upperQuantile a b arg (upperQuantile a b arg) ∧
      Classified .lowerTail a b arg (lowerTail a b arg) ∧
      Classified .upperTail a b arg (upperTail a b arg)) ∧
    Asked.quantile a b arg = quantile a b arg ∧
      Asked.upperQuantile a b arg = upperQuantile a b arg ∧
      Asked.lowerTail a b arg = lowerTail a b arg ∧
      Asked.upperTail a b arg = upperTail a b arg :=
  ⟨⟨classified_quantile a b arg, classified_upperQuantile a b arg, classified_lowerTail a b arg,
    classified_upperTail a b arg⟩, Asked.evaluators_eq a b arg⟩

end IncompleteBeta
