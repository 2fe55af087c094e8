import Dunning.Json.Basic
import Dunning.Text.Pieces

/-!
# Json/Printer — JSON text

`compact` writes a value without blanks, `pretty` with one member or item a line and an indent of
two blanks. Members are written in the order in which they stand.
-/

namespace Dunning.Json

/-- Two digits of a number below 256, in base sixteen. -/
def hexByte (n : Nat) : List Char :=
  let digit := fun d => if d < 10 then Char.ofNat (48 + d) else Char.ofNat (87 + d)
  [digit (n / 16), digit (n % 16)]

/-- A character inside a string: the quote, the backslash and the control characters are escaped. -/
def escapeChar (c : Char) : List Char :=
  let n := c.toNat
  if n = 0x22 then ['\\', c]
  else if n = 0x5C then ['\\', c]
  else if n = 8 then ['\\', 'b']
  else if n = 9 then ['\\', 't']
  else if n = 10 then ['\\', 'n']
  else if n = 12 then ['\\', 'f']
  else if n = 13 then ['\\', 'r']
  else if n < 0x20 then '\\' :: 'u' :: '0' :: '0' :: hexByte n
  else [c]

/-- A string with its quotes. -/
def quoted (s : String) : String :=
  "\"" ++ String.ofList (s.toList.flatMap escapeChar) ++ "\""

mutual

/-- The text of a value, without blanks. -/
def compact : Json → String
  | .null => "null"
  | .bool b => if b then "true" else "false"
  | .integer n => Decimal.intText n
  | .float x => if x.isFinite then Decimal.Layout.json.write x else "null"
  | .string s => quoted s
  | .array items => "[" ++ String.intercalate "," (compactItems items) ++ "]"
  | .object members => "\x7b" ++ String.intercalate "," (compactMembers members) ++ "\x7d"

/-- The texts of the items of an array. -/
def compactItems : List Json → List String
  | [] => []
  | item :: items => compact item :: compactItems items

/-- The texts of the members of an object. -/
def compactMembers : List (String × Json) → List String
  | [] => []
  | (key, value) :: members => (quoted key ++ ":" ++ compact value) :: compactMembers members

end

/-- Encloses lines, each on its own and indented to `depth`, or nothing at all. -/
def block (opening closing : String) (depth : Nat) (lines : List String) : String :=
  match lines with
  | [] => opening ++ closing
  | _ =>
    let indent := "\n" ++ Text.fill ' ' (2 * depth + 2)
    opening ++ indent ++ String.intercalate ("," ++ indent) lines ++ "\n" ++
      Text.fill ' ' (2 * depth) ++ closing

mutual

/-- The text of a value whose first line is already indented to `depth`. -/
def prettyAt (depth : Nat) : Json → String
  | .array items => block "[" "]" depth (prettyItems (depth + 1) items)
  | .object members => block "\x7b" "\x7d" depth (prettyMembers (depth + 1) members)
  | scalar => compact scalar

/-- The texts of the items of an array. -/
def prettyItems (depth : Nat) : List Json → List String
  | [] => []
  | item :: items => prettyAt depth item :: prettyItems depth items

/-- The texts of the members of an object. -/
def prettyMembers (depth : Nat) : List (String × Json) → List String
  | [] => []
  | (key, value) :: members =>
    (quoted key ++ ": " ++ prettyAt depth value) :: prettyMembers depth members

end

/-- The text of a value, spread over lines. -/
def pretty (j : Json) : String :=
  prettyAt 0 j

end Dunning.Json
