/-
**Dates and timestamps.**

* `Date.ofDays`: the date of a day number, days counting from 1970-01-01 in the Gregorian calendar
  extended to all years;
* `timestamp`: an instant in the form `YYYY-MM-DDThh:mm:ss.mmmZ`.

The year is taken to begin in March, so that the leap day is its last, and 400 such years make one
era of 146097 days.
-/

import IncompleteBeta.Time.Clock

namespace IncompleteBeta

/-- A date. -/
structure Date where
  year : Nat
  month : Nat
  day : Nat
deriving DecidableEq, Repr

namespace Date

def eraDays : Nat := 146097

/-- The days from the first of March of the year zero to 1970-01-01. -/
def epochOffset : Nat := 719468

/-- The year of the era that a day of the era falls into. -/
def yearOfEra (dayOfEra : Nat) : Nat :=
  (dayOfEra - dayOfEra / 1460 + dayOfEra / 36524 - dayOfEra / 146096) / 365

def daysBeforeYear (yearOfEra : Nat) : Nat := 365 * yearOfEra + yearOfEra / 4 - yearOfEra / 100

/-- The month, from March on, that a day of the year falls into. -/
def monthFromMarch (dayOfYear : Nat) : Nat := (5 * dayOfYear + 2) / 153

/-- The days of a year before one of its months, both from March on. -/
def daysBeforeMonth (month : Nat) : Nat := (153 * month + 2) / 5

def ofDays (days : Nat) : Date :=
  let shifted := days + epochOffset
  let dayOfEra := shifted % eraDays
  let yearOfEra := yearOfEra dayOfEra
  let dayOfYear := dayOfEra - daysBeforeYear yearOfEra
  let fromMarch := monthFromMarch dayOfYear
  let month := if fromMarch < 10 then fromMarch + 3 else fromMarch - 9
  { year := yearOfEra + shifted / eraDays * 400 + if month ≤ 2 then 1 else 0
    month
    day := dayOfYear - daysBeforeMonth fromMarch + 1 }

end Date

/-- A number in decimal digits, with zeros in front up to a width. -/
def paddedText (width n : Nat) : List Char :=
  let digits := Nat.toDigits 10 n
  List.replicate (width - digits.length) '0' ++ digits

/-- The instant so many seconds and milliseconds after the epoch. -/
def timestampText (seconds milliseconds : Nat) : List Char :=
  let date := Date.ofDays (seconds / 86400)
  let rest := seconds % 86400
  paddedText 4 date.year ++ '-' :: paddedText 2 date.month ++ '-' :: paddedText 2 date.day
    ++ 'T' :: paddedText 2 (rest / 3600) ++ ':' :: paddedText 2 (rest % 3600 / 60)
    ++ ':' :: paddedText 2 (rest % 60) ++ '.' :: paddedText 3 milliseconds ++ ['Z']

def Clock.timestamp (clock : Clock) : String :=
  String.ofList (timestampText clock.wholeSeconds clock.milliPart)

end IncompleteBeta
