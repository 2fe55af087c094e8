import Dunning.Text.HiddenTable

/-!
# Text/Shown — a text as a message shows it

`shown` puts a text between quotes and leaves no character in doubt: the quote, the backslash and
the control characters are escaped, and a character that would not show stands as its code point.
-/

namespace Dunning.Text

/-- The digits of a code point in base sixteen. -/
def codePoint (n : Nat) : List Char :=
  Nat.toDigits 16 n

/-- Whether a character shows nothing of its own. -/
def isHidden (n : Nat) : Bool :=
  n < 0x20 || n == 0x7F || hiddenRanges.any fun (first, last) => first ≤ n && n ≤ last

/-- A character as a message shows it. -/
def shownChar (c : Char) : List Char :=
  let n := c.toNat
  if n = 0 then ['\\', '0']
  else if n = 9 then ['\\', 't']
  else if n = 10 then ['\\', 'n']
  else if n = 13 then ['\\', 'r']
  else if n = 0x22 ∨ n = 0x5C then ['\\', c]
  else if isHidden n then '\\' :: 'u' :: '{' :: codePoint n ++ ['}']
  else [c]

/-- A text in quotes, as a message shows it. -/
def shown (s : String) : String :=
  "\"" ++ String.ofList (s.toList.flatMap shownChar) ++ "\""

end Dunning.Text
