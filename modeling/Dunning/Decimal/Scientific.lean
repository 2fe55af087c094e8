import Dunning.Decimal.Numeral

/-!
# Decimal/Scientific — decimals and the floating-point numbers nearest to them

A `Scientific` is a whole number of units of some power of ten. `toFloat` rounds it once, to the
nearest double and to the even one of two; `parts` takes a double apart the other way, into a whole
number of units of some power of two, without loss.
-/

namespace Dunning.Decimal

/-- The decimal number `digits * 10 ^ exponent`. -/
structure Scientific where
  digits : Nat
  exponent : Int
  deriving Repr, DecidableEq

namespace Scientific

/-- How many digits stand before the point of the number (none or fewer for a small fraction). -/
def magnitude (d : Scientific) : Int :=
  (Nat.toDigits 10 d.digits).length + d.exponent

/-- The double nearest to a decimal number, ties going to the even one. Magnitudes beyond every
double are settled before any power of ten is formed. -/
def toFloat (d : Scientific) : Float :=
  if d.digits = 0 then 0
  else if 310 < d.magnitude then 1 / 0
  else if d.magnitude < -330 then 0
  else Float.ofScientific d.digits (d.exponent < 0) d.exponent.natAbs

end Scientific

/-- The double nearest to an integer. -/
def ofInt (n : Int) : Float :=
  let size := Scientific.toFloat ⟨n.natAbs, 0⟩
  if n < 0 then -size else size

/-- A finite double as `mantissa * 2 ^ exponent`, sign aside. -/
structure Binary where
  mantissa : Nat
  exponent : Int
  deriving Repr, DecidableEq

/-- Whether the sign bit is set; it tells `-0.0` from `0.0`. -/
def isNegative (x : Float) : Bool :=
  x.toBits.toNat / Nat.pow 2 63 == 1

/-- Takes a finite double apart, its sign aside. -/
def parts (x : Float) : Binary :=
  let bits : Nat := x.toBits.toNat
  let field : Nat := bits / Nat.pow 2 52 % Nat.pow 2 11
  let fraction : Nat := bits % Nat.pow 2 52
  if field = 0 then ⟨fraction, -1074⟩ else ⟨fraction + Nat.pow 2 52, (field : Int) - 1075⟩

/-- The numerator and the denominator of `x * 10 ^ shift`, its sign aside. -/
def Binary.scaled (b : Binary) (shift : Int) : Nat × Nat :=
  (b.mantissa * Nat.pow 2 b.exponent.toNat * Nat.pow 10 shift.toNat,
    Nat.pow 2 (-b.exponent).toNat * Nat.pow 10 (-shift).toNat)

end Dunning.Decimal
