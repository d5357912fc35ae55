/-
**A double from one word of digits and one power of ten.**

The short way from digits to a double: as many digits as a word of 64 bits holds are gathered, the
word is rounded to a double, and that is multiplied or divided by a power of ten, which is a double
as well. Every step rounds, so the answer may miss the nearest double by a few units in the last
place; it is the nearest one where the word is below `2 ^ 53` and the power at most `10 ^ 22`,
because then only one step rounds.

* `gatherDigits`: the digits that fit, and those that do not;
* `powerOfTen`: the power of ten as a double;
* `scaleUp?`, `scaleDown`: multiplication and division by it;
* `Decimal.scaled?`: the double of a coefficient that fits a word.
-/

import IncompleteBeta.Decimal.Reading

namespace IncompleteBeta

/-- Gather digits in a word of 64 bits, after the digits of `word`. The second part begins with the
first digit that no longer fits. -/
def gatherDigits : (word : Nat) → (digits : List Char) → Nat × List Char
  | word, [] => (word, [])
  | word, c :: rest =>
    if 10 * word + digitValue c < 1 <<< 64 then gatherDigits (10 * word + digitValue c) rest
    else (word, c :: rest)

/-- The greatest power of ten that is below every infinite double. -/
def maxPowerOfTen : Nat := 308

def powerOfTen (k : Nat) : Float := Decimal.toFloat false ⟨1, k⟩

/-- The double `x` multiplied by `10 ^ k`; there is none beyond the finite doubles. -/
def scaleUp? (x : Float) (k : Nat) : Option Float :=
  if k ≤ maxPowerOfTen then
    let product := x * powerOfTen k
    if product.isInf then none else some product
  else if x == 0 then some x
  else none

/-- The double `x`, which is below `2 ^ 64`, divided by `10 ^ k`. Where the power is beyond the
doubles there are two divisions, and where two do not suffice nothing is left of `x`. -/
def scaleDown (x : Float) (k : Nat) : Float :=
  if k ≤ maxPowerOfTen then x / powerOfTen k
  else if k ≤ 2 * maxPowerOfTen then
    x / powerOfTen maxPowerOfTen / powerOfTen (k - maxPowerOfTen)
  else 0

/-- The double of the given sign that a decimal number with a coefficient below `2 ^ 64` comes to,
unless it is beyond the finite doubles. -/
def Decimal.scaled? (negative : Bool) (d : Decimal) : Option Float :=
  let word := Binary64.nearest false d.coefficient 0
  let magnitude? :=
    if 0 ≤ d.exponent then scaleUp? word d.exponent.toNat
    else some (scaleDown word (-d.exponent).toNat)
  magnitude?.map fun magnitude => if negative then -magnitude else magnitude

end IncompleteBeta
