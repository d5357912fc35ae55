/-
**The divisors of the classical fraction.**

The fraction is carried out once more with divisions that break off at a zero divisor, and nothing
breaks off: a ratio is kept away from zero before anything is divided by it, and the other divisors
are sums of shapes, or products of two numbers from 1 on. Sums and products may overflow on the way.

* `awayFromZero_nonzero`: what is kept away from zero;
* `CountsRounds`, `countsRounds_next`: what a counter of rounds never leaves, however many there
  are;
* `Guarded.quotient?`, `Guarded.iterate`: divisions and iterations that break off;
* `LentzState.Sound`, **`sound_classicalRound`**: the invariant of the rounds;
* **`Guarded.classicalFraction_eq`**: no divisor vanishes in any round.
-/

import IncompleteBeta.Proofs.Arguments
import IncompleteBeta.Proofs.Binary64.Nonzero
import IncompleteBeta.Proofs.Decimal.Scaling
import IncompleteBeta.Proofs.Iteration

namespace IncompleteBeta

open Binary64 (abs_value_le beq_iff epsilon isFinite_abs isFinite_of_le_of_le isFinite_one
  isFinite_zero le_of_beq le_rounded_of_onGrid lt_iff nonzero_mul nonzero_of_one_le one_le_of_rounds
  onGrid_one onGrid_value onGrid_zpow rounded rounded_le_of_onGrid rounded_le_zpow_iff
  rounded_lt_range rounds_add rounds_mul rounds_sub value value_abs value_one value_zero)

/-! ### Kept away from zero -/

/-- **What is kept away from zero is no zero**, whatever it was. -/
theorem awayFromZero_nonzero (v : Float) : (awayFromZero v == 0.0) = false := by
  unfold awayFromZero
  split
  next small => decide +kernel
  next large =>
    refine Bool.eq_false_iff.mpr fun zero => large ?_
    obtain ⟨below, above⟩ := le_of_beq zero
    have finite := isFinite_of_le_of_le isFinite_zero isFinite_zero above below
    rw [beq_iff finite isFinite_zero, value_zero] at zero
    have positive : (0.0 : Float) < 1e-300 := by decide +kernel
    rw [lt_iff isFinite_zero (by decide +kernel), value_zero] at positive
    rw [lt_iff (by rw [isFinite_abs, finite]) (by decide +kernel), value_abs, zero, abs_zero]
    exact positive

/-! ### Shapes and rounds -/

/-- **A counter of rounds**: it counts in doubles, and stays at the number from which on 1 is lost
in the rounding. -/
structure CountsRounds (m : Float) : Prop where
  finite : m.isFinite = true
  nonneg : 0 ≤ value m
  le : value m ≤ 2 ^ (53 : ℤ)

section Shapes

variable {a b m : Float}

theorem countsRounds_zero : CountsRounds 0.0 := by
  refine ⟨isFinite_zero, ?_, ?_⟩
  · rw [value_zero]
  · rw [value_zero]
    positivity

/-- **The next round is counted**, and at least 1. -/
theorem countsRounds_next (counts : CountsRounds m) :
    CountsRounds (m + 1.0) ∧ 1 ≤ value (m + 1.0) := by
  have nonneg := counts.nonneg
  have rounds := rounds_add counts.finite isFinite_one
  rw [value_one] at rounds
  have above : 1 ≤ rounded (value m + 1) := le_rounded_of_onGrid onGrid_one (by linarith)
  have below : rounded (value m + 1) ≤ 2 ^ (53 : ℤ) := by
    have le := counts.le
    rw [rounded_le_zpow_iff (by norm_num), sub_self, zpow_zero]
    linarith
  have range : |rounded (value m + 1)| < 2 ^ (1024 : ℤ) := by
    rw [abs_of_pos (by linarith)]
    exact below.trans_lt (zpow_lt_range (by norm_num))
  obtain ⟨finite, value_eq⟩ := rounds.finite range
  rw [← value_eq] at above below
  exact ⟨⟨finite, by linarith, below⟩, above⟩

/-- Twice the number of a round is at least 2. -/
theorem two_le_twice (counts : CountsRounds m) (one_le : 1 ≤ value m) :
    (2.0 * m).isFinite = true ∧ 2 ≤ value (2.0 * m) := by
  have two : value 2.0 = 2 := by
    have parts_two : Binary64.parts 2.0 = .finite .positive (2 ^ 52) (-51) (by norm_num) := rfl
    unfold value
    rw [parts_two]
    show ((2 ^ 52 : ℕ) : ℝ) * 2 ^ (-51 : ℤ) = 2
    norm_num
  have rounds := rounds_mul (x := 2.0) (by decide +kernel) counts.finite
  rw [two] at rounds
  have below : 2 * value m ≤ 2 ^ (54 : ℤ) := by
    have le := counts.le
    norm_num at le ⊢
    linarith
  obtain ⟨finite, value_eq⟩ := rounds.isFinite_of_le (by linarith) below
    (onGrid_zpow (by norm_num)) (zpow_lt_range (by norm_num))
  refine ⟨finite, ?_⟩
  rw [value_eq]
  refine le_rounded_of_onGrid ?_ (by linarith)
  exact ⟨1, 1, by norm_num, by norm_num, by norm_num⟩

/-- One more than a double is far from the end of the range. -/
theorem value_add_one_lt (a : Float) : value a + 1 < 2 ^ (1024 : ℤ) - 2 ^ (970 : ℤ) := by
  have most := (le_abs_self _).trans (abs_value_le a)
  have double : (2 : ℝ) ^ (971 : ℤ) = 2 ^ (970 : ℤ) * 2 := zpow_add_one₀ (by norm_num) 970
  have large : (1 : ℝ) < 2 ^ (970 : ℤ) := one_lt_zpow₀ (by norm_num) (by norm_num)
  rw [double] at most
  generalize (2 : ℝ) ^ (1024 : ℤ) = range at most ⊢
  generalize (2 : ℝ) ^ (970 : ℤ) = half at most large ⊢
  linarith

/-- A shape and 1 do not overflow. -/
theorem one_le_add_one (shape : IsShape a) :
    (a + 1.0).isFinite = true ∧ 1 ≤ value (a + 1.0) := by
  have positive := shape.positive
  have rounds := rounds_add shape.finite isFinite_one
  rw [value_one] at rounds
  have above : 1 ≤ rounded (value a + 1) := le_rounded_of_onGrid onGrid_one (by linarith)
  have range : |rounded (value a + 1)| < 2 ^ (1024 : ℤ) := by
    rw [abs_of_pos (by linarith)]
    exact rounded_lt_range (value_add_one_lt a)
  obtain ⟨finite, value_eq⟩ := rounds.finite range
  exact ⟨finite, value_eq ▸ above⟩

theorem neg_one_le_sub_one (shape : IsShape a) :
    (a - 1.0).isFinite = true ∧ -1 ≤ value (a - 1.0) := by
  have positive := shape.positive
  have rounds := rounds_sub shape.finite isFinite_one
  rw [value_one] at rounds
  have above : -1 ≤ rounded (value a - 1) := le_rounded_of_onGrid onGrid_one.neg (by linarith)
  have below : rounded (value a - 1) ≤ value a :=
    rounded_le_of_onGrid (onGrid_value a) (by linarith)
  have range : |rounded (value a - 1)| < 2 ^ (1024 : ℤ) := by
    have most := value_add_one_lt a
    have least : (0 : ℝ) < 2 ^ (970 : ℤ) := by positivity
    generalize (2 : ℝ) ^ (1024 : ℤ) = range at most ⊢
    generalize (2 : ℝ) ^ (970 : ℤ) = half at most least
    rw [abs_lt]
    constructor <;> linarith
  obtain ⟨finite, value_eq⟩ := rounds.finite range
  exact ⟨finite, value_eq ▸ above⟩

/-- The sum of two shapes is no zero, and neither is an infinite one. -/
theorem sum_nonzero (shape : IsShape a) (otherShape : IsShape b) : (a + b == 0.0) = false := by
  have positive := shape.positive
  have otherPositive := otherShape.positive
  refine Binary64.nonzero_of_pos ((rounds_add shape.finite otherShape.finite).pos ?_)
  exact positive.trans_le (le_rounded_of_onGrid (onGrid_value a) (by linarith))

/-- **The divisors of the two coefficients of a round** are no zeros. -/
theorem coefficient_divisors (shape : IsShape a) (counts : CountsRounds m) (one_le : 1 ≤ value m) :
    ((a - 1.0 + 2.0 * m) * (a + 2.0 * m) == 0.0) = false ∧
      ((a + 2.0 * m) * (a + 1.0 + 2.0 * m) == 0.0) = false := by
  have positive := shape.positive
  obtain ⟨finite, two_le⟩ := two_le_twice counts one_le
  obtain ⟨finite_sub, sub_le⟩ := neg_one_le_sub_one shape
  obtain ⟨finite_add, add_le⟩ := one_le_add_one shape
  have first := one_le_of_rounds (rounds_add finite_sub finite) (by linarith)
  have middle := one_le_of_rounds (rounds_add shape.finite finite) (by linarith)
  have last := one_le_of_rounds (rounds_add finite_add finite) (by linarith)
  exact ⟨nonzero_mul first middle, nonzero_mul middle last⟩

end Shapes

/-! ### Computations that break off -/

namespace Guarded

/-- A quotient, if its divisor is no zero: where it is one, the computation breaks off. -/
def quotient? (x y : Float) : Option Float := if y == 0.0 then none else some (x / y)

theorem quotient?_eq {y : Float} (nonzero : (y == 0.0) = false) (x : Float) :
    quotient? x y = some (x / y) := if_neg (Bool.eq_false_iff.mp nonzero)

/-- The computation goes on with a quotient whose divisor is no zero. -/
theorem quotient?_bind {α : Type} {y : Float} (nonzero : (y == 0.0) = false) (x : Float)
    (rest : Float → Option α) : (quotient? x y >>= rest) = rest (x / y) := by
  rw [quotient?_eq nonzero]
  rfl

/-- An iteration that breaks off with its round. -/
def iterate {σ ε α : Type} (step : σ → Option (Step σ ε α)) (exhausted : ε) :
    (rounds : Nat) → (state : σ) → Option (Except ε α)
  | 0, _ => some (.error exhausted)
  | rounds + 1, state => do
    match ← step state with
    | .settled answer => some (.ok answer)
    | .failed cause => some (.error cause)
    | .next later => iterate step exhausted rounds later

/-- **An iteration does not break off** where no round does, from any state that has what every
round keeps. -/
theorem iterate_eq {σ ε α : Type} {step : σ → Step σ ε α} {step? : σ → Option (Step σ ε α)}
    {exhausted : ε} {P : σ → Prop} (follows : ∀ state, P state → step? state = some (step state))
    (keeps : ∀ {state later}, P state → step state = .next later → P later) (rounds : Nat)
    {state : σ} (holds : P state) :
    iterate step? exhausted rounds state =
      some (IncompleteBeta.iterate step exhausted rounds state) := by
  induction rounds generalizing state with
  | zero => rfl
  | succ rounds ih =>
    rw [iterate, follows state holds]
    cases outcome : step state with
    | settled answer =>
      rw [iterate_eq_of_settled outcome]
      rfl
    | failed cause =>
      rw [iterate_eq_of_failed outcome]
      rfl
    | next later =>
      rw [iterate_eq_of_next outcome]
      exact ih (keeps holds outcome)

def roundCap (a b : Float) : Option Nat := do
  let spread ← quotient? (a * b) (a + b)
  let scaled := 10.0 * spread.sqrt
  let bounded := if scaled < 1e9 then scaled else 1e9
  return minRounds + bounded.toUInt64.toNat

def extend (state : LentzState) (coefficient : Float) : Option LentzState := do
  let denominator ← quotient? 1.0 (awayFromZero (1.0 + coefficient * state.denominator))
  let ratio ← quotient? coefficient state.numerator
  let numerator := awayFromZero (1.0 + ratio)
  return { state with denominator, numerator, value := state.value * (denominator * numerator) }

def classicalRound (a b x : Float) (state : LentzState) :
    Option (Step LentzState Cause Float) := do
  let sum := a + b
  let m := state.round + 1.0
  let twice := 2.0 * m
  let even ← quotient? (m * (b - m) * x) ((a - 1.0 + twice) * (a + twice))
  let odd ← quotient? (-(a + m) * (sum + m) * x) ((a + twice) * (a + 1.0 + twice))
  let halfway ← extend state even
  let later ← extend halfway odd
  if !later.value.isFinite then return .failed (.notFinite .fraction)
  else if (later.denominator * later.numerator - 1.0).abs < epsilon then return .settled later.value
  else return .next { later with round := m }

def classicalStart (a b x y : Float) : Option LentzState := do
  let first ←
    if 0.5 < x then quotient? ((a + b) * y - (b - 1.0)) (a + 1.0)
    else quotient? (a + 1.0 - (a + b) * x) (a + 1.0)
  let denominator ← quotient? 1.0 (awayFromZero first)
  return { numerator := 1.0, denominator, value := denominator, round := 0.0 }

/-- **The classical fraction, if none of its divisors is zero.** -/
def classicalFraction (a b x y : Float) : Option (Except Cause Float) := do
  let cap ← roundCap a b
  let start ← classicalStart a b x y
  iterate (classicalRound a b x) (.noConvergence cap) cap start

end Guarded

/-! ### Rounds -/

/-- **The invariant of the rounds**: the next one divides by the numerator. -/
structure LentzState.Sound (state : LentzState) : Prop where
  counts : CountsRounds state.round
  nonzero : (state.numerator == 0.0) = false

section Rounds

variable {a b x : Float} {state later : LentzState}

theorem extend_numerator_nonzero (state : LentzState) (coefficient : Float) :
    ((state.extend coefficient).numerator == 0.0) = false := awayFromZero_nonzero _

/-- Both divisors of an extension are no zeros, the numerator because it was kept away from zero. -/
theorem Guarded.extend_eq (nonzero : (state.numerator == 0.0) = false) (coefficient : Float) :
    extend state coefficient = some (state.extend coefficient) := by
  unfold extend
  rw [quotient?_bind (awayFromZero_nonzero _), quotient?_bind nonzero]
  rfl

theorem Guarded.classicalRound_eq (shape : IsShape a) (sound : state.Sound) :
    classicalRound a b x state = some (IncompleteBeta.classicalRound a b x state) := by
  obtain ⟨counts, one_le⟩ := countsRounds_next sound.counts
  obtain ⟨even, odd⟩ := coefficient_divisors shape counts one_le
  unfold classicalRound IncompleteBeta.classicalRound
  dsimp only
  rw [quotient?_bind even, quotient?_bind odd, extend_eq sound.nonzero]
  dsimp only [Option.bind_eq_bind, Option.bind_some]
  rw [extend_eq (extend_numerator_nonzero _ _)]
  dsimp only [Option.bind_some]
  split_ifs <;> rfl

/-- **A round that goes on keeps the invariant.** -/
theorem sound_classicalRound (sound : state.Sound)
    (goesOn : classicalRound a b x state = .next later) : later.Sound := by
  unfold classicalRound at goesOn
  dsimp only at goesOn
  split_ifs at goesOn
  cases goesOn
  exact ⟨(countsRounds_next sound.counts).1, extend_numerator_nonzero _ _⟩

theorem sound_classicalStart (a b x y : Float) : (classicalStart a b x y).Sound := by
  have one : ((1.0 : Float) == 0.0) = false := by decide +kernel
  exact ⟨countsRounds_zero, one⟩

theorem Guarded.classicalStart_eq (shape : IsShape a) (b x y : Float) :
    classicalStart a b x y = some (IncompleteBeta.classicalStart a b x y) := by
  have divisor : (a + 1.0 == 0.0) = false := by
    obtain ⟨finite, one_le⟩ := one_le_add_one shape
    refine nonzero_of_one_le ?_
    rwa [Binary64.le_iff isFinite_one finite, value_one]
  unfold classicalStart IncompleteBeta.classicalStart
  rw [quotient?_eq divisor, quotient?_eq divisor]
  split_ifs
  · exact quotient?_bind (awayFromZero_nonzero _) _ _
  · exact quotient?_bind (awayFromZero_nonzero _) _ _

/-- **No divisor of the classical fraction is zero**, in any round, at any point and for all
shapes. -/
theorem Guarded.classicalFraction_eq (shape : IsShape a) (otherShape : IsShape b) (x y : Float) :
    classicalFraction a b x y = some (IncompleteBeta.classicalFraction a b x y) := by
  have cap : roundCap a b = some (IncompleteBeta.roundCap a b) :=
    quotient?_bind (sum_nonzero shape otherShape) _ _
  unfold classicalFraction
  rw [cap, classicalStart_eq shape]
  exact iterate_eq (fun _ => classicalRound_eq shape) sound_classicalRound _
    (sound_classicalStart a b x y)

end Rounds

end IncompleteBeta
