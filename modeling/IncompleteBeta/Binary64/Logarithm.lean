/-
**Natural logarithms of doubles.**

The logarithm is computed for an exact number and rounded once, so that the logarithm of `x` and the
logarithm of `1 + x` are the same computation on different exact numbers, and neither loses digits
near its zero:

* `logScaled`: the logarithm of a positive exact number, as an exact number;
* `ln` and `lnOnePlus`: the double nearest it, with the usual values at the ends of the domain.

The fraction part is `2 · artanh ((f - 1) / (f + 1))` with `0.7 ≤ f < 1.4`, so the series gains five
bits a term.
-/

import IncompleteBeta.Binary64.Exact

namespace IncompleteBeta.Binary64

/-- The number of bits after the point in fixed-point arithmetic. -/
def fixedBits : Nat := 192

def lnTwo : Nat := 4350955369971217654477563090224794165364344896676135745069

/-- The sum of `power · square ^ j / (odd + 2 · j)`, in units of `2 ^ -precision`, until the terms
vanish. -/
def artanhSeries (precision square : Nat) : (terms odd power : Nat) → Nat
  | 0, _, _ => 0
  | terms + 1, odd, power =>
    if power = 0 then 0
    else
      power / odd
        + artanhSeries precision square terms (odd + 2) ((power * square) >>> precision)

/-- The inverse hyperbolic tangent of `s`, both in units of `2 ^ -precision`, for `s` below one
fifth. -/
def artanh (precision s : Nat) : Nat :=
  artanhSeries precision ((s * s) >>> precision) 64 1 s

/-- The natural logarithm of `n · 2 ^ e` for positive `n`, with over 130 correct leading bits. Near
one the precision grows with the distance of the leading bit of the result. -/
def logScaled (n : Nat) (e : Int) : Scaled :=
  let top := n.log2
  let bits := if 7 <<< top ≤ 5 * n then top + 1 else top
  let one := 1 <<< bits
  let octaves : Int := bits + e
  let gap := if n < one then one - n else n - one
  let precision := if octaves = 0 then 144 + ((n + one).log2 - gap.log2) else fixedBits
  let half := artanh precision ((gap <<< precision) / (n + one))
  let fractional : Int := if n < one then -(2 * half : Nat) else (2 * half : Nat)
  ⟨octaves * lnTwo + fractional, -(precision : Int)⟩

def ln (x : Float) : Float :=
  if x.isNaN || x < 0.0 then nan
  else if x == 0.0 then -infinity
  else if x.isInf then x
  else (logScaled (exact x).mantissa.natAbs (exact x).exponent).toFloat

/-- The natural logarithm of `1 + x`, where `1 + x` is formed exactly. -/
def lnOnePlus (x : Float) : Float :=
  if x.isNaN || x < -1.0 then nan
  else if x == -1.0 then -infinity
  else if x == 0.0 || x.isInf then x
  else
    let sum := Scaled.add ⟨1, 0⟩ (exact x)
    (logScaled sum.mantissa.natAbs sum.exponent).toFloat

end IncompleteBeta.Binary64
