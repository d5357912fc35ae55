/-
**Arithmetic that breaks off where a word overflows.**

A computation on machine words gives the exact result as long as no number on the way leaves the
range of its word. To say that none does, the computation is carried out once more in integers, and
nothing comes of it where a number does not fit.

* `Word`, `Word.unsigned64`, `Word.signed64`, `Word.unsigned32`: words by the numbers that fit them;
* `Word.fit?`: a number that has to fit;
* `Word.fit?_bind`, `Word.fit?_signed64`, `Word.fit?_unsigned32`: a number that does.
-/

import Mathlib.Algebra.Group.Int.Defs
import Mathlib.Algebra.Group.Nat.Defs

namespace IncompleteBeta

/-- A machine word, by the least and the greatest number that fit it. -/
structure Word where
  least : Int
  greatest : Int
deriving DecidableEq, Repr

namespace Word

def unsigned64 : Word := ⟨0, 2 ^ 64 - 1⟩

def signed64 : Word := ⟨-2 ^ 63, 2 ^ 63 - 1⟩

def unsigned32 : Word := ⟨0, 2 ^ 32 - 1⟩

/-- The numbers that fit a word. -/
def Fits (word : Word) (n : Int) : Prop := word.least ≤ n ∧ n ≤ word.greatest

instance (word : Word) (n : Int) : Decidable (word.Fits n) :=
  inferInstanceAs (Decidable (word.least ≤ n ∧ n ≤ word.greatest))

/-- A number, if it fits the word: where it does not, the computation breaks off. -/
def fit? (word : Word) (n : Int) : Option Int := if word.Fits n then some n else none

/-- The computation goes on with a number that fits. -/
theorem fit?_bind {α : Type} {word : Word} {n : Int} (fits : word.Fits n) (rest : Int → Option α) :
    (word.fit? n >>= rest) = rest n := by
  rw [fit?, if_pos fits]
  rfl

theorem fit?_signed64 {n : Int} (lower : -2 ^ 63 ≤ n) (upper : n ≤ 2 ^ 63 - 1) :
    signed64.fit? n = pure n := if_pos ⟨lower, upper⟩

theorem fit?_unsigned32 {n : Int} (lower : 0 ≤ n) (upper : n ≤ 2 ^ 32 - 1) :
    unsigned32.fit? n = pure n := if_pos ⟨lower, upper⟩

theorem fits_unsigned64 {n : Nat} (word : n < 2 ^ 64) : unsigned64.Fits n := by
  refine ⟨Int.natCast_nonneg n, ?_⟩
  show (n : Int) ≤ 2 ^ 64 - 1
  omega

end Word

end IncompleteBeta
