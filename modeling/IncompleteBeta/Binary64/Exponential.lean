/-
**Exponentials and powers of doubles.**

* `expScaled`: the double nearest the exponential of an exact number;
* `exp`: the exponential of a double;
* `rpow`: a power of a nonnegative base, with the exponent's product with the logarithm kept exact
  up to the last rounding;
* `Elementary`: the elementary functions that a system provides, and these as its instance.

The exponent is split into a multiple of `ln 2`, which becomes a power of two, and a remainder in
`[0, ln 2)`, whose series is summed in fixed point.
-/

import IncompleteBeta.Binary64.Logarithm

namespace IncompleteBeta.Binary64

/-- The sum of `term · r ^ j · (n - 1)! / (n + j - 1)!`, in units of `2 ^ -192`, until the terms
vanish. -/
def expSeries (r : Nat) : (terms n term : Nat) → Nat
  | 0, _, _ => 0
  | terms + 1, n, term =>
    if term = 0 then 0
    else term + expSeries r terms (n + 1) (((term * r) >>> fixedBits) / n)

/-- An exact number in units of `2 ^ -192`, rounded down. -/
def Scaled.toFixed (v : Scaled) : Int :=
  if -(fixedBits : Int) ≤ v.exponent then v.mantissaOver (-fixedBits)
  else v.mantissa >>> (-(v.exponent + fixedBits)).toNat

/-- The double nearest the exponential of an exact number. From 2048 on, either way, only the sign
of the number matters. -/
def expScaled (v : Scaled) : Float :=
  if v.mantissa ≠ 0 ∧ 11 ≤ v.mantissa.natAbs.log2 + v.exponent then
    if v.mantissa < 0 then 0.0 else infinity
  else
    let fixed := v.toFixed
    let octaves := fixed / lnTwo
    let r := (fixed % lnTwo).toNat
    Scaled.toFloat ⟨expSeries r 96 1 (1 <<< fixedBits), octaves - fixedBits⟩

def exp (x : Float) : Float :=
  if x.isNaN then x
  else if x.isInf then if x < 0.0 then 0.0 else x
  else expScaled (exact x)

/-- The power `x ^ y` of a nonnegative base; a negative base has none. -/
def rpow (x y : Float) : Float :=
  if y == 0.0 || x == 1.0 then 1.0
  else if x.isNaN || y.isNaN || x < 0.0 then nan
  else if x == 0.0 then if y < 0.0 then infinity else 0.0
  else if x.isInf then if y < 0.0 then 0.0 else infinity
  else if y.isInf then if (x < 1.0) == (y < 0.0) then infinity else 0.0
  else
    expScaled ((logScaled (exact x).mantissa.natAbs (exact x).exponent).mul (exact y))

end IncompleteBeta.Binary64

namespace IncompleteBeta

/-- The elementary functions that a system provides. How they round is up to the system, and nothing
is taken for granted about them. -/
class Elementary where
  ln : Float → Float
  lnOnePlus : Float → Float
  exp : Float → Float
  /-- The power of a base and an exponent. -/
  rpow : Float → Float → Float

/-- The elementary functions with their results rounded once. -/
instance Elementary.rounded : Elementary where
  ln := Binary64.ln
  lnOnePlus := Binary64.lnOnePlus
  exp := Binary64.exp
  rpow := Binary64.rpow

end IncompleteBeta
