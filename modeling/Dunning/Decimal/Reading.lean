import Dunning.Decimal.Scientific
import Dunning.Text.Blank
import Dunning.Text.Case

/-!
# Decimal/Reading — numbers out of text

`float?` reads a number as people write it: a sign, digits with a point that may stand at either
end, an exponent, and in any case the words `inf`, `infinity` and `nan`. `figure` is the lenient
reading of the authoring forms: blanks around the number are dropped, and what is no number reads as
NaN. `integer` reads a whole number within bounds and says which of four faults it meets first.
-/

namespace Dunning.Decimal

open Dunning.Text

/-- Splits off the digits at the front. -/
def digitsThen (cs : List Char) : List Char × List Char :=
  (cs.takeWhile isDigit, cs.dropWhile isDigit)

/-- An exponent mark with its number, or nothing: no text may follow. -/
def exponent? : List Char → Option Int
  | [] => some 0
  | mark :: rest =>
    if mark = 'e' ∨ mark = 'E' then
      let (negative, digits) := match rest with
        | '-' :: digits => (true, digits)
        | '+' :: digits => (false, digits)
        | digits => (false, digits)
      if digits.isEmpty || !digits.all isDigit then none
      else some (if negative then -(value digits : Int) else value digits)
    else none

/-- Digits with an optional point, at least one digit on one of its sides,
and an optional exponent. -/
def scientific? (cs : List Char) : Option Scientific :=
  let (whole, rest) := digitsThen cs
  let (fraction, rest) := match rest with
    | '.' :: rest => digitsThen rest
    | _ => ([], rest)
  if whole.isEmpty && fraction.isEmpty then none
  else (exponent? rest).map fun e => ⟨value (whole ++ fraction), e - fraction.length⟩

/-- A number without its sign. -/
def unsigned? (cs : List Char) : Option Float :=
  let word := String.ofList (cs.map Char.toLower)
  if word = "inf" ∨ word = "infinity" then some (1 / 0)
  else if word = "nan" then some (0 / 0)
  else (scientific? cs).map Scientific.toFloat

/-- A number as text. -/
def float? (s : String) : Option Float :=
  match s.toList with
  | '-' :: cs => (unsigned? cs).map fun x => -x
  | '+' :: cs => unsigned? cs
  | cs => unsigned? cs

/-- Not a number. -/
def nan : Float := 0 / 0

/-- The number that a text shows between blanks; what shows none counts as NaN. -/
def figure (s : String) : Float :=
  (float? (trim s)).getD nan

/-! ## Whole numbers -/

/-- What can be wrong with the text of a whole number. -/
inductive IntegerFault where
  | empty
  | invalidDigit
  | tooLarge
  | tooSmall
  deriving Repr, DecidableEq

/-- The wording of a fault. -/
def IntegerFault.message : IntegerFault → String
  | .empty => "cannot parse integer from empty string"
  | .invalidDigit => "invalid digit found in string"
  | .tooLarge => "number too large to fit in target type"
  | .tooSmall => "number too small to fit in target type"

/-- The value of a digit in bases up to sixteen. -/
def hexDigit? (c : Char) : Option Nat :=
  let n := c.toNat
  if 48 ≤ n && n ≤ 57 then some (n - 48)
  else if 97 ≤ n && n ≤ 102 then some (n - 87)
  else if 65 ≤ n && n ≤ 70 then some (n - 55)
  else none

/-- The value of a digit in the given base. -/
def digitIn? (base : Nat) (c : Char) : Option Nat :=
  (hexDigit? c).filter (· < base)

/-- Adds digits to a number one by one, until one is no digit or the number leaves its bounds. -/
def accumulate (base : Nat) (least greatest : Int) (negative : Bool) :
    Int → List Char → Except IntegerFault Int
  | n, [] => .ok n
  | n, c :: cs =>
    match digitIn? base c with
    | none => .error .invalidDigit
    | some d =>
      let next := if negative then n * base - d else n * base + d
      if next < least then .error .tooSmall
      else if greatest < next then .error .tooLarge
      else accumulate base least greatest negative next cs

/-- A whole number from `least` to `greatest`: an optional sign, then digits. A minus sign is a
digit like any other, and so none, where no number below zero is wanted. -/
def integer (base : Nat) (least greatest : Int) : List Char → Except IntegerFault Int
  | [] => .error .empty
  | [c] => accumulate base least greatest false 0 [c]
  | c :: cs =>
    if c = '+' then accumulate base least greatest false 0 cs
    else if c = '-' ∧ least < 0 then accumulate base least greatest true 0 cs
    else accumulate base least greatest false 0 (c :: cs)

end Dunning.Decimal
