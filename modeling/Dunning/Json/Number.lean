import Dunning.Decimal.Reading
import Dunning.Json.Tree
import Dunning.Text.Utf8

/-!
# Json/Number — number literals

A literal without point and exponent that 64 bits hold is an integer, all others are doubles; `-0`
is the double. A double is reckoned from its literal in up to three steps, each of which rounds:

    literal    0.010700000000000001
    taken up   10700000000000001 · 10⁻¹⁸         the digits that 64 bits hold
    doubles    10700000000000000 and 10¹⁸        the nearest to each
    read       0.0107                            the nearest to their quotient

so that it need not be the double nearest to the literal. It is where both doubles are exact, as
they are below `2 ^ 53` and up to `10 ^ 22`.

A literal beyond the doubles can be passed over but not read. One that stops short is reported as an
early end by a reader, and as a bad number by one who passes over it.
-/

namespace Dunning.Json

open Dunning.Text Dunning.Decimal

/-- The digits at the front, and what follows them. -/
def leadingDigits : List Glyph → List Char × List Glyph
  | some c :: rest =>
    if isDigit c then
      let (digits, rest) := leadingDigits rest
      (c :: digits, rest)
    else ([], some c :: rest)
  | rest => ([], rest)

/-- At least one digit, and what follows. -/
def someDigits (cs : List Glyph) : Except Tree (List Char × List Glyph) :=
  match leadingDigits cs with
  | ([], []) => .error (.stuck .endInValue .badNumber)
  | ([], _) => .error (.stuck .badNumber .badNumber)
  | found => .ok found

/-- The digits before the point: no more than one, if the first is zero. -/
def wholeDigits (cs : List Glyph) : Except Tree (List Char × List Glyph) := do
  let (digits, rest) ← someDigits cs
  match digits with
  | '0' :: _ :: _ => .error (.stuck .badNumber .badNumber)
  | _ => .ok (digits, rest)

/-- A point with its digits, or nothing. -/
def fractionDigits : List Glyph → Except Tree (Option (List Char) × List Glyph)
  | some '.' :: rest => do
    let (digits, rest) ← someDigits rest
    .ok (some digits, rest)
  | rest => .ok (none, rest)

/-- An exponent, or nothing. It is kept in full: one that 32 bits do not hold makes a number too
large, or zero, by its size alone. -/
def exponentPart : List Glyph → Except Tree (Option Int × List Glyph)
  | some mark :: rest =>
    if mark = 'e' ∨ mark = 'E' then do
      let (negative, rest) := match rest with
        | some '-' :: rest => (true, rest)
        | some '+' :: rest => (false, rest)
        | rest => (false, rest)
      let (digits, rest) ← someDigits rest
      let size : Int := value digits
      .ok (some (if negative then -size else size), rest)
    else .ok (none, some mark :: rest)
  | rest => .ok (none, rest)

/-- The least integer that 64 bits hold. -/
def leastInteger : Int := -(Nat.pow 2 63 : Nat)

/-- The greatest integer that 64 bits hold. -/
def greatestInteger : Int := (Nat.pow 2 64 : Nat) - 1

/-- Adds digits to a number for as long as 64 bits hold it: the number, and how many digits are left
over. -/
def takeUp (n : Nat) : List Char → Nat × Nat
  | [] => (n, 0)
  | c :: cs =>
    let next := 10 * n + digitValue c
    if (next : Int) ≤ greatestInteger then takeUp next cs else (n, cs.length + 1)

/-- The digits before and behind a point, as far as they are taken up. Those that are left over
count as zeros before the point, and not at all behind it. -/
def taken (whole fraction : List Char) : Scientific :=
  let (n, beyond) := takeUp 0 whole
  let (n, left) := takeUp n fraction
  ⟨n, beyond - (fraction.length - left : Nat)⟩

/-- The greatest power of ten among the doubles. -/
def greatestPower : Nat := 308

/-- A power of ten as a double. -/
def powerOfTen (k : Nat) : Float :=
  Scientific.toFloat ⟨1, k⟩

/-- Divides by `10 ^ k`, and first by the greatest power for as long as `k` is beyond it. -/
def divided (x : Float) (k : Nat) : Float :=
  if k ≤ greatestPower then x / powerOfTen k
  else if x == 0 then x
  else divided (x / powerOfTen greatestPower) (k - greatestPower)
termination_by k
decreasing_by simp only [greatestPower] at *; omega

/-- Multiplies by a power of ten; beyond the greatest one only zero is not too large. -/
def scaled (x : Float) (exponent : Int) : Float :=
  if exponent < 0 then divided x exponent.natAbs
  else if exponent ≤ greatestPower then x * powerOfTen exponent.natAbs
  else if x == 0 then x
  else 1 / 0

/-- The double of a decimal, if there is one. -/
def floatTree (negative : Bool) (d : Scientific) : Tree :=
  let x := scaled (ofInt d.digits) d.exponent
  if x.isFinite then .float (if negative then -x else x) else .unreadable .numberTooLarge

/-- The number of a literal without point and exponent. -/
def wholeTree (negative : Bool) (digits : List Char) : Tree :=
  let size := value digits
  let n : Int := if negative then -(size : Int) else size
  if negative && size == 0 then .float (-0.0)
  else if leastInteger ≤ n ∧ n ≤ greatestInteger then .integer n
  else floatTree negative (taken digits [])

/-- Reads a literal after its sign. -/
def magnitude (negative : Bool) (cs : List Glyph) : Except Tree (Tree × List Glyph) := do
  let (whole, rest) ← wholeDigits cs
  let (fraction, rest) ← fractionDigits rest
  let (exponent, rest) ← exponentPart rest
  match fraction, exponent with
  | none, none => .ok (wholeTree negative whole, rest)
  | _, _ =>
    let d := taken whole (fraction.getD [])
    .ok (floatTree negative ⟨d.digits, d.exponent + exponent.getD 0⟩, rest)

end Dunning.Json
