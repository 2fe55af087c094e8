import Dunning.Decimal.Numeral
import Dunning.Text.Blank

/-!
# Calendar/Date — days of the Gregorian calendar

A `Date` is a day that exists, in a year from -262143 to 262142. `Date.parse` reads year, month and
day with dashes between them, blanks allowed around the numbers, and reports the first thing wrong
from left to right; `Date.text` writes four digits of year, with a sign when four do not hold it.
-/

namespace Dunning

namespace Calendar

/-- Leap years have a 29th of February. -/
def isLeap (year : Int) : Bool :=
  year % 4 == 0 && (year % 100 != 0 || year % 400 == 0)

/-- How many days a month has. -/
def daysIn (year : Int) (month : Nat) : Nat :=
  if month = 2 then (if isLeap year then 29 else 28)
  else if month = 4 ∨ month = 6 ∨ month = 9 ∨ month = 11 then 30
  else 31

/-- The years the calendar covers. -/
def firstYear : Int := -262143

/-- The last year the calendar covers. -/
def lastYear : Int := 262142

/-- The day exists. -/
def Exists (year : Int) (month day : Nat) : Prop :=
  (firstYear ≤ year ∧ year ≤ lastYear) ∧ (1 ≤ month ∧ month ≤ 12) ∧
    1 ≤ day ∧ day ≤ daysIn year month

instance (year : Int) (month day : Nat) : Decidable (Exists year month day) := by
  unfold Exists; infer_instance

/-- Four digits of year, or a sign and at least four where the year is not in 0 to 9999. -/
def yearText (year : Int) : String :=
  if 0 ≤ year ∧ year ≤ 9999 then Decimal.paddedText 4 year.toNat
  else (if year < 0 then "-" else "+") ++ Decimal.paddedText 4 year.natAbs

end Calendar

/-- A day of the calendar. -/
structure Date where
  year : Int
  month : Nat
  day : Nat
  isDay : Calendar.Exists year month day
  deriving DecidableEq, Repr

/-- What can be wrong with the text of a date. -/
inductive DateFault where
  | tooShort
  | outOfRange
  | invalid
  | tooLong
  deriving Repr, DecidableEq

/-- The wording of a fault. -/
def DateFault.message : DateFault → String
  | .tooShort => "premature end of input"
  | .outOfRange => "input is out of range"
  | .invalid => "input contains invalid characters"
  | .tooLong => "trailing input"

namespace Date

open Calendar Dunning.Text

/-- The day with these numbers, if there is one. -/
def of? (year : Int) (month day : Nat) : Option Date :=
  if h : Exists year month day then some ⟨year, month, day, h⟩ else none

/-- Two digits of month and of day after the year. -/
def text (d : Date) : String :=
  yearText d.year ++ "-" ++ Decimal.paddedText 2 d.month ++ "-" ++ Decimal.paddedText 2 d.day

/-- The digits at the front, at most `most` of them. -/
def digits (most : Option Nat) (cs : List Char) : List Char :=
  let all := cs.takeWhile Decimal.isDigit
  match most with
  | some n => all.take n
  | none => all

/-- A number at the front, of at least one digit and below 2^63, and what follows it. -/
def number (most : Option Nat) (cs : List Char) : Except DateFault (Nat × List Char) :=
  let found := digits most cs
  if cs.isEmpty then .error .tooShort
  else if found.isEmpty then .error .invalid
  else if Nat.pow 2 63 ≤ Decimal.value found then .error .outOfRange
  else .ok (Decimal.value found, cs.drop found.length)

/-- A year: up to four digits, or a sign and any number of them. -/
def yearNumber (cs : List Char) : Except DateFault (Int × List Char) := do
  let (year, rest) ← match cs with
    | '-' :: cs => (number none cs).map fun (n, rest) => (-(n : Int), rest)
    | '+' :: cs => (number none cs).map fun (n, rest) => ((n : Int), rest)
    | cs => (number (some 4) cs).map fun (n, rest) => ((n : Int), rest)
  if year < -2147483648 ∨ 2147483647 < year then .error .outOfRange else .ok (year, rest)

/-- One or two digits that write a number from 1 to `greatest`. -/
def part (greatest : Nat) (cs : List Char) : Except DateFault (Nat × List Char) := do
  let (n, rest) ← number (some 2) cs
  if n < 1 ∨ greatest < n then .error .outOfRange else .ok (n, rest)

/-- The dash between two numbers, with blanks on both sides of it. -/
def dash (cs : List Char) : Except DateFault (List Char) :=
  match cs.dropWhile isBlank with
  | [] => .error .tooShort
  | '-' :: rest => .ok (rest.dropWhile isBlank)
  | _ => .error .invalid

/-- Reads a date. -/
def parse (s : String) : Except DateFault Date := do
  let (year, rest) ← yearNumber (s.toList.dropWhile isBlank)
  let (month, rest) ← part 12 (← dash rest)
  let (day, rest) ← part 31 (← dash rest)
  if !(rest.dropWhile isBlank).isEmpty then .error .tooLong
  else match of? year month day with
    | some date => .ok date
    | none => .error .outOfRange

end Date

end Dunning
