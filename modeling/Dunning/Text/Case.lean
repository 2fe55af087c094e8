import Dunning.Text.CaseTable

/-!
# Text/Case — lower case

`lower` is the full lower-casing of Unicode: every character by its own lower-case form, `İ`
becoming two characters, and a capital sigma becoming `ς` at the end of a word and `σ` elsewhere.
Because of the sigma a piece of a text need not lower-case to a piece of the lower-cased text.
`lowerAscii` touches `A` to `Z` only.
-/

namespace Dunning.Text

/-- The lower-case form of a character outside ASCII, where it is one other character. -/
def lowerShift? (n : Nat) : Option Int :=
  (lowerRuns.find? fun (first, last, step, _) =>
    first ≤ n && n ≤ last && (n - first) % step == 0).map fun (_, _, _, shift) => shift

/-- The lower-case form of one character, away from its neighbours. -/
def lowerChar (c : Char) : List Char :=
  if c.toNat < 0x80 then [c.toLower]
  else if c.toNat = 0x130 then ['i', Char.ofNat 0x307]
  else match lowerShift? c.toNat with
    | some shift => [Char.ofNat (c.toNat + shift).toNat]
    | none => [c]

/-- Whether a code point falls into one of the ranges. -/
def inRanges (ranges : List (Nat × Nat)) (c : Char) : Bool :=
  ranges.any fun (first, last) => first ≤ c.toNat && c.toNat ≤ last

/-- The first character that is not case-ignorable is cased. -/
def meetsCased (cs : List Char) : Bool :=
  match cs.dropWhile (inRanges ignorableRanges) with
  | [] => false
  | c :: _ => inRanges casedRanges c

/-- Capital sigma. -/
def sigma : Char := Char.ofNat 0x3A3

/-- Lower-cases the characters that follow `before`, which is given backwards. A sigma ends a word
when a letter stands before it and none after it, case-ignorable characters aside. -/
def lowerAfter : List Char → List Char → List Char
  | _, [] => []
  | before, c :: after =>
    (if c = sigma then
        [Char.ofNat (if meetsCased before && !meetsCased after then 0x3C2 else 0x3C3)]
      else lowerChar c)
      ++ lowerAfter (c :: before) after

/-- Full lower-casing. -/
def lower (cs : List Char) : List Char :=
  lowerAfter [] cs

/-- Lower-cases `A` to `Z` and leaves every other character. -/
def lowerAscii (s : String) : String :=
  s.map Char.toLower

end Dunning.Text
