import Dunning.Decimal.Scientific

/-!
# Decimal/Shortest — the fewest digits that read back

`shortest` gives a positive finite double the decimal with the fewest digits whose nearest double it
is; of two such decimals the nearer one, and of two equally near ones the even one. The search tries
one digit, then two, and so on: on each grid only the two neighbours of the double can read back.
-/

namespace Dunning.Decimal

/-- The exponent of the leading decimal digit of a positive number, given as a fraction. -/
def leadingExponent (num den : Nat) : Int :=
  if den ≤ num then (Nat.toDigits 10 (num / den)).length - 1
  else
    let c := (den + num - 1) / num
    if c ≤ 1 then 0 else -((Nat.toDigits 10 (c - 1)).length : Int)

/-- The decimal with `count` digits that reads back as `x` and lies nearest to it,
if there is one. -/
def onGrid? (x : Float) (b : Binary) (lead : Int) (count : Nat) : Option Scientific :=
  let unit := lead - count + 1
  let (num, den) := b.scaled (-unit)
  let below : Scientific := ⟨num / den, unit⟩
  let above : Scientific := ⟨num / den + 1, unit⟩
  let rest := num % den
  let preferBelow := 2 * rest < den || (2 * rest == den && below.digits % 2 == 0)
  let (first, second) := if preferBelow then (below, above) else (above, below)
  if first.toFloat == x then some first
  else if second.toFloat == x then some second
  else none

/-- The exact decimal expansion: dividing by a power of two only needs more digits. -/
def Binary.exactly (b : Binary) : Scientific :=
  if b.exponent < 0 then ⟨b.mantissa * Nat.pow 5 b.exponent.natAbs, b.exponent⟩
  else ⟨b.mantissa * Nat.pow 2 b.exponent.toNat, 0⟩

/-- Moves trailing zeros of the digits into the exponent. -/
def Scientific.trimZeros (d : Scientific) : Nat → Scientific
  | 0 => d
  | fuel + 1 =>
    if d.digits ≠ 0 ∧ d.digits % 10 = 0 then
      Scientific.trimZeros ⟨d.digits / 10, d.exponent + 1⟩ fuel
    else d

/-- The shortest decimal that reads back as a positive finite double. Seventeen digits always do. -/
def shortest (x : Float) : Scientific :=
  let b := parts x
  let (num, den) := b.scaled 0
  let lead := leadingExponent num den
  let found := (List.range 17).findSome? fun i => onGrid? x b lead (i + 1)
  (found.getD b.exactly).trimZeros 400

/-- **The digits read back** whenever some grid up to seventeen digits has a decimal that does. -/
theorem toFloat_of_onGrid? {x : Float} {b : Binary} {lead : Int} {count : Nat} {d : Scientific}
    (h : onGrid? x b lead count = some d) : (d.toFloat == x) = true := by
  simp only [onGrid?] at h
  repeat' split at h
  all_goals first
    | (obtain rfl := Option.some.inj h; assumption)
    | contradiction

end Dunning.Decimal
