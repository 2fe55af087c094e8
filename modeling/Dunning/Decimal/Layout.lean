import Dunning.Decimal.Shortest

/-!
# Decimal/Layout — writing a figure

One engine, `Layout.write`, lays out the shortest digits of a double; a `Layout` says which
exponents are written out in full and whether a whole number keeps its `.0`. There are two:
`Layout.json`, for numbers in JSON text, and `Layout.plain`, for numbers in sentences. `fixed`
writes the exact value rounded to a number of places instead, a half going to the even neighbour.
-/

namespace Dunning.Decimal

/-- How the shortest digits of a number are laid out. -/
structure Layout where
  /-- The leading exponents at which the number is written out in full. -/
  positional : Int → Bool
  /-- A whole number written in full ends in `.0`. -/
  pointZero : Bool

namespace Layout

/-- Numbers in JSON text: in full from `0.00001` up to sixteen digits before the point. -/
def json : Layout := ⟨fun e => -5 ≤ e && e < 16, true⟩

/-- Numbers in sentences: in full at every size. -/
def plain : Layout := ⟨fun _ => true, false⟩

/-- A number written out in full, from its digits and the exponent of the first. -/
def inFull (l : Layout) (digits : List Char) (lead : Int) : List Char :=
  if lead < 0 then '0' :: '.' :: (List.replicate ((-lead).toNat - 1) '0' ++ digits)
  else
    let whole := lead.toNat + 1
    if digits.length ≤ whole then
      digits ++ List.replicate (whole - digits.length) '0' ++
        (if l.pointZero then ['.', '0'] else [])
    else digits.take whole ++ '.' :: digits.drop whole

/-- A number with an exponent mark; a positive exponent has its sign written. -/
def withExponent (digits : List Char) (lead : Int) : List Char :=
  let mantissa := match digits with
    | d :: e :: rest => d :: '.' :: e :: rest
    | short => short
  mantissa ++ 'e' :: (if lead < 0 then '-' else '+') :: numeral lead.natAbs

/-- The text of a positive finite number. -/
def magnitude (l : Layout) (x : Float) : List Char :=
  let d := shortest x
  let digits := numeral d.digits
  let lead := d.exponent + digits.length - 1
  if l.positional lead then l.inFull digits lead else withExponent digits lead

/-- The text of a number. -/
def write (l : Layout) (x : Float) : String :=
  if x.isNaN then "NaN"
  else
    let size := if x.isInf then ['i', 'n', 'f']
      else if x == 0 then (if l.pointZero then ['0', '.', '0'] else ['0'])
      else l.magnitude x.abs
    String.ofList (if isNegative x then '-' :: size else size)

end Layout

/-- `num / den` rounded to the nearest whole number, a half going to the even neighbour. -/
def roundDiv (num den : Nat) : Nat :=
  let q := num / den
  let r := num % den
  if 2 * r < den || (2 * r == den && q % 2 == 0) then q else q + 1

/-- The exact value rounded to `places` places after the point. -/
def fixed (places : Nat) (x : Float) : String :=
  if x.isNaN then "NaN"
  else
    let size := if x.isInf then ['i', 'n', 'f']
      else
        let (num, den) := (parts x).scaled places
        let digits := padded (places + 1) (roundDiv num den)
        let whole := digits.length - places
        digits.take whole ++ '.' :: digits.drop whole
    String.ofList (if isNegative x then '-' :: size else size)

end Dunning.Decimal
