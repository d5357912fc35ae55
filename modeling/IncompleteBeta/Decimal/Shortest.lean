/-
**The decimal digits of a double.**

* `shortestDecimal`: the decimal number with the fewest digits that reads back as the double, and of
  those the nearest one;
* `roundedDecimal`: the double rounded to a number of significant digits.

Both look at the grid of decimal numbers with a given number of digits around the double. On each
grid only its two neighbours there can read back, because the numbers that do form an interval
around it.
-/

import IncompleteBeta.Decimal.Basic

namespace IncompleteBeta

/-- Which neighbour a value exactly in the middle goes to. -/
inductive Tie where
  | up
  | toEven
deriving DecidableEq, Repr

/-- The largest `e` with `10 ^ e ≤ n / d`, for positive `n` and `d`. The estimate from the leading
bits is off by at most one. -/
def decimalExponent (n d : Nat) : Int :=
  let reaches (e : Int) : Bool :=
    if 0 ≤ e then decide (d * Nat.pow 10 e.toNat ≤ n)
    else decide (d ≤ n * Nat.pow 10 (-e).toNat)
  let estimate := ((n.log2 : Int) - d.log2) * 30103 / 100000
  if reaches (estimate + 1) then estimate + 1
  else if reaches estimate then estimate
  else estimate - 1

/-- The quotient `n / d` on the grid of multiples of `10 ^ unit`: the multiple at or below it, and
what is left over as a quotient. -/
def onGrid (n d : Nat) (unit : Int) : Nat × Nat × Nat :=
  if 0 ≤ unit then
    let step := d * Nat.pow 10 unit.toNat
    (n / step, n % step, step)
  else
    let scaled := n * Nat.pow 10 (-unit).toNat
    (scaled / d, scaled % d, d)

/-- The nearest multiple to a value that leaves `rest` out of `step` above `below`. -/
def nearestOnGrid (tie : Tie) (below rest step : Nat) : Nat :=
  if 2 * rest < step then below
  else if 2 * rest = step ∧ tie = .toEven ∧ below % 2 = 0 then below
  else below + 1

/-- The neighbours on the grid of a quotient, the nearer one first. -/
def neighbours (tie : Tie) (n d : Nat) (unit : Int) : List Decimal :=
  let (below, rest, step) := onGrid n d unit
  let near := nearestOnGrid tie below rest step
  let far := if near = below then below + 1 else below
  [⟨near, unit⟩, ⟨far, unit⟩]

/-- The first candidate that reads back as the given double, among numbers with `digits`,
`digits + 1`, … digits. -/
def shortestFrom (tie : Tie) (magnitude : Float) (n d : Nat) (leading : Int) :
    (attempts digits : Nat) → Option Decimal
  | 0, _ => none
  | attempts + 1, digits =>
    match (neighbours tie n d (leading + 1 - digits)).find? fun candidate =>
        candidate.toFloat false == magnitude with
    | some candidate => some candidate
    | none => shortestFrom tie magnitude n d leading attempts (digits + 1)

/-- The shortest decimal number that reads back as the magnitude of a finite double, and of those
the nearest. Seventeen digits always suffice; the exact expansion stands behind them. -/
def shortestDecimal (tie : Tie) (x : Float) : Decimal :=
  if x == 0.0 then ⟨0, 0⟩
  else
    let (n, d) := (Binary64.exact x).ratio
    ((shortestFrom tie x.abs n d (decimalExponent n d) 17 1).getD (exactDecimal x)).reduced

/-- The magnitude of a finite double rounded to so many significant digits, trailing zeros
dropped. -/
def roundedDecimal (digits : Nat) (x : Float) : Decimal :=
  if x == 0.0 then ⟨0, 0⟩
  else
    let (n, d) := (Binary64.exact x).ratio
    let unit := decimalExponent n d + 1 - digits
    let (below, rest, step) := onGrid n d unit
    (Decimal.mk (nearestOnGrid .toEven below rest step) unit).reduced

end IncompleteBeta
