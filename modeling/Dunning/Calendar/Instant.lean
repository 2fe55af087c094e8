import Dunning.Calendar.Date

/-!
# Calendar/Instant — points in time

An `Instant` counts milliseconds from the start of 1970, within the years of the calendar.
`Instant.text` writes it in Coordinated Universal Time, with milliseconds only where there are any.
-/

namespace Dunning

namespace Calendar

/-- The day that lies `days` days after the first of January 1970, as year, month and day. The years
are counted from March, so that a leap day ends one. -/
def civil (days : Int) : Int × Nat × Nat :=
  let shifted := days + 719468
  let era := shifted.fdiv 146097
  let dayOfEra := (shifted - era * 146097).toNat
  let yearOfEra := (dayOfEra - dayOfEra / 1460 + dayOfEra / 36524 - dayOfEra / 146096) / 365
  let dayOfYear := dayOfEra - (365 * yearOfEra + yearOfEra / 4 - yearOfEra / 100)
  let monthFromMarch := (5 * dayOfYear + 2) / 153
  let day := dayOfYear - (153 * monthFromMarch + 2) / 5 + 1
  let month := if monthFromMarch < 10 then monthFromMarch + 3 else monthFromMarch - 9
  let year := (yearOfEra : Int) + era * 400 + (if month ≤ 2 then 1 else 0)
  (year, month, day)

/-- Milliseconds in a day. -/
def dayLength : Int := 86400000

end Calendar

/-- A point in time, in milliseconds from the start of 1970. -/
structure Instant where
  millis : Int
  deriving Repr, DecidableEq

namespace Instant

open Calendar

/-- The day, and the milliseconds into it. -/
def split (t : Instant) : Int × Nat :=
  (t.millis.fdiv dayLength, (t.millis.fmod dayLength).toNat)

/-- The point with this count, if the calendar reaches it. -/
def ofMillis? (millis : Int) : Option Instant :=
  let t : Instant := ⟨millis⟩
  let (year, _, _) := civil t.split.1
  if firstYear ≤ year ∧ year ≤ lastYear then some t else none

/-- Date and time of day in Coordinated Universal Time. -/
def text (t : Instant) : String :=
  let (days, within) := t.split
  let (year, month, day) := civil days
  let two := Decimal.paddedText 2
  let millis := within % 1000
  yearText year ++ "-" ++ two month ++ "-" ++ two day ++ "T" ++
    two (within / 3600000) ++ ":" ++ two (within / 60000 % 60) ++ ":" ++ two (within / 1000 % 60) ++
    (if millis = 0 then "" else "." ++ Decimal.paddedText 3 millis) ++ "Z"

end Instant

end Dunning
