/-
**The exact value of a double, and the double nearest an exact value.**

A finite double is an integer times a power of two. Computations that must not round on the way are
carried out on such pairs, and one rounding ends them:

* `exact`: the integer and the power of two of a finite double;
* `Scaled.toFloat`: the double nearest `mantissa · 2 ^ exponent`, a tie going to the even mantissa;
* `nearestRatio`: the double nearest a quotient of two naturals;
* `fusedMulAdd`: `x · y + z` with a single rounding.
-/

namespace IncompleteBeta.Binary64

/-- The number `mantissa · 2 ^ exponent`; nothing is reduced. -/
structure Scaled where
  mantissa : Int
  exponent : Int
deriving DecidableEq, Repr

def exponentField (x : Float) : Nat := (x.toBits.toNat >>> 52) % 2048

def fractionField (x : Float) : Nat := x.toBits.toNat % (1 <<< 52)

/-- The sign bit: set for negative numbers and for negative zero. -/
def signBit (x : Float) : Bool := decide (1 <<< 63 ≤ x.toBits.toNat)

def exact (x : Float) : Scaled :=
  let magnitude : Nat :=
    if exponentField x = 0 then fractionField x else (1 <<< 52) + fractionField x
  let exponent : Int := if exponentField x = 0 then -1074 else (exponentField x : Int) - 1075
  ⟨if signBit x then -(magnitude : Int) else magnitude, exponent⟩

/-- The quotient rounded to an integer, a tie going to the even one. -/
def divRoundEven (n d : Nat) : Nat :=
  let quotient := n / d
  let twice := 2 * (n % d)
  if twice < d ∨ (twice = d ∧ quotient % 2 = 0) then quotient else quotient + 1

def infinityBits : Nat := 2047 <<< 52

/-- The bits of the double nearest `n · 2 ^ e`. A rounding that carries into the next binade carries
into the exponent field, so the two fields are simply added. -/
def magnitudeBits (n : Nat) (e : Int) : Nat :=
  if n = 0 then 0
  else
    let width : Int := n.log2 + 1
    if 1024 < width + e then infinityBits
    else
      let grid := max (width + e - 53) (-1074)
      let mantissa :=
        if grid ≤ e then n <<< (e - grid).toNat else divRoundEven n (1 <<< (grid - e).toNat)
      min infinityBits (((grid + 1074).toNat <<< 52) + mantissa)

/-- The double of the given sign nearest `n · 2 ^ e`; zero keeps the sign. -/
def nearest (negative : Bool) (n : Nat) (e : Int) : Float :=
  let bits := magnitudeBits n e
  Float.ofBits (UInt64.ofNat (if negative then bits + (1 <<< 63) else bits))

def Scaled.toFloat (v : Scaled) : Float :=
  nearest (decide (v.mantissa < 0)) v.mantissa.natAbs v.exponent

/-- The double of the given sign nearest `n / d`, for positive `d`. The quotient is cut to at least
66 bits and one more bit says whether anything was cut, which is all that rounding needs. -/
def nearestRatio (negative : Bool) (n d : Nat) : Float :=
  let shift := 66 + d.log2 - n.log2
  let scaled := n <<< shift
  let inexact := if scaled % d = 0 then 0 else 1
  nearest negative (2 * (scaled / d) + inexact) (-(shift : Int) - 1)

def Scaled.mul (u v : Scaled) : Scaled := ⟨u.mantissa * v.mantissa, u.exponent + v.exponent⟩

/-- The mantissa of a value over an exponent that is not above its own. -/
def Scaled.mantissaOver (v : Scaled) (e : Int) : Int :=
  v.mantissa * ((1 <<< (v.exponent - e).toNat : Nat) : Int)

/-- The sum of two exact values, over the smaller of their exponents. -/
def Scaled.add (u v : Scaled) : Scaled :=
  let e := min u.exponent v.exponent
  ⟨u.mantissaOver e + v.mantissaOver e, e⟩

/-- `x · y + z` rounded once. Where a factor is infinite or not a number the plain operations are
exact, and where only `z` is, it is the answer; a sum that cancels is positive zero. -/
def fusedMulAdd (x y z : Float) : Float :=
  if !(x.isFinite && y.isFinite) then x * y + z
  else if !z.isFinite then z
  else
    let product := (exact x).mul (exact y)
    let sum := product.add (exact z)
    if sum.mantissa = 0 then if product.mantissa = 0 then x * y + z else 0
    else sum.toFloat

def nan : Float := 0.0 / 0.0

def infinity : Float := 1.0 / 0.0

def epsilon : Float := 2.220446049250313e-16

def minPositive : Float := 2.2250738585072014e-308

end IncompleteBeta.Binary64
