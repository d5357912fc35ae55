/-
**How a double is written.**

A layout says which decimal exponents are written positionally, how an integral number ends, how an
exponent is signed and which way a tie between two shortest numbers goes. The program writes doubles
in three layouts:

* `Layout.message`: never an exponent, as in error messages;
* `Layout.scientific`: always an exponent, as in reports;
* `Layout.json`: positional for moderate exponents, with a point in every number.
-/

import IncompleteBeta.Decimal.Shortest

namespace IncompleteBeta

/-- The decisions of a number format. -/
structure Layout where
  /-- Whether a number whose leading digit has this power of ten is written positionally. -/
  positional : Int → Bool
  /-- Whether an integral number in positional notation ends in `.0`. -/
  pointZero : Bool
  exponentPlus : Bool
  tie : Tie

/-- Error messages are positional throughout. -/
def Layout.message : Layout :=
  { positional := fun _ => true, pointZero := false, exponentPlus := false, tie := .up }

/-- Reports show one digit, the rest after a point, and an exponent. -/
def Layout.scientific : Layout :=
  { positional := fun _ => false, pointZero := false, exponentPlus := false, tie := .up }

/-- JSON numbers are positional from `1e-5` up to, but not including, `1e16`. -/
def Layout.json : Layout :=
  { positional := fun e => decide (-5 ≤ e) && decide (e ≤ 15), pointZero := true,
    exponentPlus := true, tie := .toEven }

/-- The digits with the point after `whole` of them, padded with zeros on either side. -/
def positionalText (pointZero : Bool) (digits : List Char) (whole : Int) : List Char :=
  if whole ≤ 0 then '0' :: '.' :: (List.replicate (-whole).toNat '0' ++ digits)
  else if digits.length ≤ whole.toNat then
    digits ++ List.replicate (whole.toNat - digits.length) '0'
      ++ if pointZero then ['.', '0'] else []
  else digits.take whole.toNat ++ '.' :: digits.drop whole.toNat

def exponentText (plus : Bool) (e : Int) : List Char :=
  (if e < 0 then ['-'] else if plus then ['+'] else []) ++ Nat.toDigits 10 e.natAbs

/-- One digit, the others after a point, and the exponent. -/
def scientificText (plus : Bool) (digits : List Char) (e : Int) : List Char :=
  digits.take 1 ++ (if digits.length ≤ 1 then [] else '.' :: digits.drop 1)
    ++ 'e' :: exponentText plus e

def Layout.decimalText (layout : Layout) (d : Decimal) : List Char :=
  let e := d.leadingExponent
  if layout.positional e then positionalText layout.pointZero d.digits (e + 1)
  else scientificText layout.exponentPlus d.digits e

/-- A finite double in a layout, by its shortest digits; negative zero keeps its sign. -/
def Layout.finiteText (layout : Layout) (x : Float) : List Char :=
  (if Binary64.signBit x then ['-'] else []) ++ layout.decimalText (shortestDecimal layout.tie x)

def Layout.text (layout : Layout) (x : Float) : List Char :=
  if x.isNaN then ['N', 'a', 'N']
  else if x.isInf then (if x < 0.0 then ['-'] else []) ++ ['i', 'n', 'f']
  else layout.finiteText x

/-- A double rounded to so many significant digits, with an exponent; zero has none. -/
def roundedText (digits : Nat) (x : Float) : List Char :=
  if x.isNaN || x.isInf then Layout.scientific.text x
  else
    let d := roundedDecimal digits x
    (if Binary64.signBit x then ['-'] else []) ++
      if d.coefficient = 0 then ['0'] else Layout.scientific.decimalText d

end IncompleteBeta
