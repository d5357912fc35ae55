/-
**Wall-clock readings.**

A clock is read in seconds and nanoseconds since the epoch; a time before the epoch counts as the
epoch.

* `Clock.wholeSeconds`, `Clock.milliPart`: the reading cut to milliseconds;
* `Clock.milliseconds`: all of it in milliseconds.
-/

namespace IncompleteBeta

/-- A reading of the wall clock. -/
structure Clock where
  seconds : Int
  nanoseconds : Nat
deriving DecidableEq, Repr

namespace Clock

def wholeSeconds (clock : Clock) : Nat := clock.seconds.toNat

def milliPart (clock : Clock) : Nat :=
  if clock.seconds < 0 then 0 else clock.nanoseconds / 1000000

def milliseconds (clock : Clock) : Nat := clock.wholeSeconds * 1000 + clock.milliPart

end Clock

end IncompleteBeta
