/-
**Readers that round to nearest.**

The readers of this library round the digits of a number up to three times. A reader that rounds
them once, to the nearest double, gets back every finite double that was written:

* `nearest?`: the double nearest to a number text, unless that is infinite;
* `readNearest`: the reader of doubles by it;
* **`reads_nearest`**: what it makes of the text of a finite double is that double, bit for bit.
-/

import IncompleteBeta.Proofs.Json.Reading
import IncompleteBeta.Proofs.Json.Rereading

namespace IncompleteBeta.Json

open Binary64 (signBit value)

/-! ### The nearest double -/

section Nearest

variable {x : Float}

/-- The double nearest to a number text, unless that is infinite. -/
def nearest? (negative : Bool) (written : NumberText) : Option Float :=
  let x := written.plain.toFloat negative
  if x.isFinite then some x else none

theorem toFloat_zero (negative : Bool) :
    (Decimal.written ⟨0, 0⟩).plain.toFloat negative = if negative then -0.0 else 0.0 := by
  cases negative <;> decide +kernel

/-- **The double nearest to the shortest digits of a double is the double itself.** -/
theorem toFloat_shortest (finite : x.isFinite = true) :
    (shortestDecimal .toEven x).written.plain.toFloat (signBit x) = x := by
  by_cases zero : value x = 0
  · rw [shortest_zero finite zero, toFloat_zero, signedZero_eq finite zero]
  · have rounds := Decimal.rounds_toFloat (signBit x) (shortestDecimal .toEven x).written.plain
    rw [value_plain] at rounds
    rw [value_eq_rounded finite] at zero
    exact rounds.unique (rounds_self finite) zero

theorem nearest?_shortest (finite : x.isFinite = true) :
    nearest? (signBit x) (shortestDecimal .toEven x).written = some x := by
  unfold nearest?
  dsimp only
  rw [toFloat_shortest finite, if_pos finite]

end Nearest

/-! ### The reader -/

def unsignedNearest (negative : Bool) : Reader Float := fun text => do
  let (written, rest) ← numberText text
  match nearest? negative written with
  | some x => return (x, rest)
  | none => .error .malformed

/-- A number, as the double nearest to it. -/
def readNearest : Reader Float := fun text =>
  match skipSpace text with
  | '-' :: rest => unsignedNearest true rest
  | text => unsignedNearest false text

theorem unsignedNearest_written {negative : Bool} {d : Decimal} {x : Float} (normal : d.Normal)
    (found : nearest? negative d.written = some x) {rest : List Char} (ends : NumberEnd rest) :
    unsignedNearest negative (Layout.json.decimalText d ++ rest) = .ok (x, rest) := by
  have written := numberText_written d.written.exponent (Decimal.isWhole_written normal)
    d.allDigits_fraction ends
  rw [Decimal.decimalText_eq, unsignedNearest, written]
  simp only [bind, Except.bind, found, pure, Except.pure]

/-- **A finite double is read back from its own text**, bit for bit. -/
theorem reads_nearest {x : Float} (finite : x.isFinite = true) :
    Reads readNearest (floatText x) (.ok x) := by
  intro before rest blank ends
  have normal := Decimal.normal_shortest .toEven x
  obtain ⟨skipped, _⟩ := startsNumber_skipSpace rest blank (floatText_eq_cons finite)
  have read := unsignedNearest_written normal (nearest?_shortest finite) ends
  rw [readNearest]
  simp only [skipped]
  rw [floatText_eq finite]
  cases sign : signBit x with
  | true =>
    rw [sign] at read
    exact read
  | false =>
    obtain ⟨c, others, leading, digit⟩ := decimalText_eq_cons normal
    rw [sign, leading, List.cons_append] at read
    rw [if_neg Bool.false_ne_true, List.nil_append, leading, List.cons_append]
    split
    next otherRest same =>
      cases same
      cases digit
    next => exact read

end IncompleteBeta.Json
