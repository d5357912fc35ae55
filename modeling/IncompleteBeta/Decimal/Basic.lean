/-
**Decimal numbers and their nearest doubles.**

* `Decimal`: a coefficient and a power of ten;
* `Decimal.toFloat`: the double nearest it, whatever the size of the exponent;
* `Decimal.reduced`: the same number without trailing zeros in the coefficient;
* `exactDecimal`: every finite double is a decimal number.
-/

import IncompleteBeta.Binary64.Exact

namespace IncompleteBeta

/-- The number `coefficient · 10 ^ exponent`; nothing is reduced. -/
structure Decimal where
  coefficient : Nat
  exponent : Int
deriving DecidableEq, Repr

namespace Decimal

/-- The double of the given sign nearest a decimal number. An exponent so large or so small that the
number is beyond every double is not expanded. -/
def toFloat (negative : Bool) (d : Decimal) : Float :=
  if d.coefficient = 0 then Binary64.nearest negative 0 0
  else if 310 ≤ d.exponent then Binary64.nearest negative 1 1024
  else if d.exponent + d.coefficient.log2 + 1 ≤ -330 then Binary64.nearest negative 0 0
  else if 0 ≤ d.exponent then
    Binary64.nearestRatio negative (d.coefficient * Nat.pow 10 d.exponent.toNat) 1
  else Binary64.nearestRatio negative d.coefficient (Nat.pow 10 (-d.exponent).toNat)

/-- Drop up to `count` trailing zeros of the coefficient. -/
def dropZeros : (count : Nat) → Decimal → Decimal
  | 0, d => d
  | count + 1, d =>
    if d.coefficient % 10 = 0 then dropZeros count ⟨d.coefficient / 10, d.exponent + 1⟩ else d

/-- The same number without trailing zeros in the coefficient; zero is `0 · 10 ^ 0`. -/
def reduced (d : Decimal) : Decimal :=
  if d.coefficient = 0 then ⟨0, 0⟩ else d.dropZeros d.coefficient.log2

def digits (d : Decimal) : List Char := Nat.toDigits 10 d.coefficient

def leadingExponent (d : Decimal) : Int := d.exponent + d.digits.length - 1

end Decimal

/-- A positive exact value as a quotient of naturals. -/
def Binary64.Scaled.ratio (v : Binary64.Scaled) : Nat × Nat :=
  if 0 ≤ v.exponent then (v.mantissa.natAbs <<< v.exponent.toNat, 1)
  else (v.mantissa.natAbs, 1 <<< (-v.exponent).toNat)

/-- The magnitude of a finite double, as a decimal number with all its digits. -/
def exactDecimal (x : Float) : Decimal :=
  let v := Binary64.exact x
  if 0 ≤ v.exponent then ⟨v.mantissa.natAbs <<< v.exponent.toNat, 0⟩
  else ⟨v.mantissa.natAbs * Nat.pow 5 (-v.exponent).toNat, v.exponent⟩

end IncompleteBeta
