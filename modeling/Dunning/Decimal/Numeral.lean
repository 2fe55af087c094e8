/-!
# Decimal/Numeral — natural numbers in digits

`numeral` writes a natural number in decimal digits without leading zeros and `value` reads digits
back; `value_numeral` says the second undoes the first, so no two numbers share a numeral
(`numeral_injective`). `padded` adds leading zeros, which `value` does not see (`value_padded`).
-/

namespace Dunning.Decimal

/-- The digit of a number below ten. -/
def digit (d : Nat) : Char :=
  Char.ofNat (48 + d)

/-- Whether a character is one of the ten digits. -/
def isDigit (c : Char) : Bool :=
  48 ≤ c.toNat && c.toNat ≤ 57

/-- The number a digit stands for. -/
def digitValue (c : Char) : Nat :=
  c.toNat - 48

/-- The digits of a number, without leading zeros. -/
def numeral (n : Nat) : List Char :=
  if n < 10 then [digit n] else numeral (n / 10) ++ [digit (n % 10)]

/-- The number that digits write. -/
def value (cs : List Char) : Nat :=
  cs.foldl (fun n c => 10 * n + digitValue c) 0

/-- The digits of a number with leading zeros up to `width` places. -/
def padded (width n : Nat) : List Char :=
  List.replicate (width - (numeral n).length) '0' ++ numeral n

/-- The decimal text of a natural number. -/
def natText (n : Nat) : String :=
  String.ofList (numeral n)

/-- The decimal text of an integer. -/
def intText (n : Int) : String :=
  if n < 0 then "-" ++ natText n.natAbs else natText n.natAbs

/-- The decimal text of a natural number with leading zeros up to `width` places. -/
def paddedText (width n : Nat) : String :=
  String.ofList (padded width n)

/-! ## Reading undoes writing -/

theorem digitValue_digit {d : Nat} (h : d < 10) : digitValue (digit d) = d := by
  have : ∀ d : Fin 10, digitValue (digit d.val) = d.val := by decide
  exact this ⟨d, h⟩

theorem value_concat (cs : List Char) (c : Char) :
    value (cs ++ [c]) = 10 * value cs + digitValue c := by
  simp [value]

theorem value_numeral (n : Nat) : value (numeral n) = n := by
  induction n using Nat.strongRecOn with
  | ind n ih =>
    rw [numeral]
    split
    · next h => simp [value, digitValue_digit h]
    · rw [value_concat, ih (n / 10) (by omega), digitValue_digit (by omega)]
      omega

theorem numeral_injective {m n : Nat} (h : numeral m = numeral n) : m = n := by
  rw [← value_numeral m, h, value_numeral]

theorem value_zeros (k : Nat) (cs : List Char) :
    value (List.replicate k '0' ++ cs) = value cs := by
  induction k with
  | zero => rfl
  | succ k ih => rw [← ih]; rfl

theorem value_padded (width n : Nat) : value (padded width n) = n := by
  rw [padded, value_zeros, value_numeral]

end Dunning.Decimal
