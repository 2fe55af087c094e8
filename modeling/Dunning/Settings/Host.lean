import Dunning.Decimal.Reading
import Dunning.Text.Pieces

/-!
# Settings/Host — addresses to listen on

An address has four numbers below 256 with points between them, or eight numbers of sixteen bits in
base sixteen with colons between them, of which `::` leaves out a run of zeros and the last two may
be written as the first kind. `Host.text` writes the shortest form: the longest run of zeros is left
out, the first of equally long ones.
-/

namespace Dunning

/-- An address to listen on. -/
inductive Host where
  /-- Four numbers. -/
  | v4 (octets : List Nat)
  /-- Eight numbers. -/
  | v6 (groups : List Nat)
  deriving Repr, DecidableEq

namespace Host

open Dunning.Text

/-! ## Reading -/

/-- The digits at the front as a number, and what follows them. -/
def number? (base most greatest : Nat) (zeros : Bool) (cs : List Char) : Option (Nat × List Char) :=
  let digits := cs.takeWhile fun c => (Decimal.digitIn? base c).isSome
  let n := digits.foldl (fun n c => n * base + (Decimal.digitIn? base c).getD 0) 0
  if digits.isEmpty || most < digits.length || greatest < n then none
  else if !zeros && 1 < digits.length && digits.head? == some '0' then none
  else some (n, cs.drop digits.length)

/-- A character at the front, and what follows it. -/
def mark? (c : Char) : List Char → Option (List Char)
  | [] => none
  | d :: rest => if d = c then some rest else none

/-- A number of the four. -/
def octet? (cs : List Char) : Option (Nat × List Char) := number? 10 3 255 false cs

/-- Four numbers at the front. -/
def octets? (cs : List Char) : Option (List Nat × List Char) := do
  let (a, cs) ← octet? cs
  let (b, cs) ← octet? (← mark? '.' cs)
  let (c, cs) ← octet? (← mark? '.' cs)
  let (d, cs) ← octet? (← mark? '.' cs)
  some ([a, b, c, d], cs)

/-- The two numbers of sixteen bits that four octets make. -/
def pairs : List Nat → List Nat
  | [a, b, c, d] => [a * 256 + b, c * 256 + d]
  | _ => []

/-- Groups at the front. -/
structure Groups where
  groups : List Nat
  /-- The last two were written as octets. -/
  octets : Bool
  rest : List Char

/-- Octets at the front, where there is room for the two groups that they make. -/
def octetsIn? (room : Nat) (cs : List Char) : Option (List Nat × List Char) :=
  if room < 2 then none else octets? cs

/-- Groups at the front with colons between them, at most `room` of them. The first is not preceded
by a colon, unless others have been read. -/
def groupsFrom (first : Bool) : Nat → List Char → Groups
  | 0, cs => ⟨[], false, cs⟩
  | room + 1, cs =>
    let start? := if first then some cs else mark? ':' cs
    match start?.bind (octetsIn? (room + 1)) with
    | some (octets, rest) => ⟨pairs octets, true, rest⟩
    | none =>
      match start?.bind (number? 16 4 65535 true) with
      | some (n, rest) =>
        let more := groupsFrom false room rest
        { more with groups := n :: more.groups }
      | none => ⟨[], false, cs⟩

/-- Eight groups at the front, `::` standing for those that are left out. -/
def eight? (cs : List Char) : Option (List Nat × List Char) := do
  let head := groupsFrom true 8 cs
  if head.groups.length = 8 then some (head.groups, head.rest)
  else if head.octets then none
  else do
    let rest ← mark? ':' (← mark? ':' head.rest)
    let tail := groupsFrom true (7 - head.groups.length) rest
    let zeros := List.replicate (8 - head.groups.length - tail.groups.length) 0
    some (head.groups ++ zeros ++ tail.groups, tail.rest)

/-- Reads an address. -/
def parse? (s : String) : Option Host :=
  let cs := s.toList
  match octets? cs with
  | some (octets, rest) => if rest.isEmpty then some (.v4 octets) else none
  | none =>
    match eight? cs with
    | some (groups, []) => some (.v6 groups)
    | _ => none

/-! ## Writing -/

/-- Digits in base sixteen. -/
def hexText (n : Nat) : String := String.ofList (Nat.toDigits 16 n)

/-- The number of zeros at the front. -/
def zerosAt (groups : List Nat) : Nat := (groups.takeWhile (· == 0)).length

/-- The longest run of zeros: where it starts and its length. The first of equally
long ones counts. -/
def longestRun : Nat → List Nat → Nat × Nat
  | _, [] => (0, 0)
  | index, g :: groups =>
    let here := zerosAt (g :: groups)
    let (start, length) := longestRun (index + 1) groups
    if length ≤ here && 0 < here then (index, here) else (start, length)

/-- Groups with colons between them. -/
def colons (groups : List Nat) : String := String.intercalate ":" (groups.map hexText)

/-- Octets with points between them. -/
def points (octets : List Nat) : String := String.intercalate "." (octets.map Decimal.natText)

/-- The text of an address. -/
def text : Host → String
  | .v4 octets => points octets
  | .v6 [0, 0, 0, 0, 0, 65535, high, low] =>
    "::ffff:" ++ points [high / 256, high % 256, low / 256, low % 256]
  | .v6 groups =>
    let (start, length) := longestRun 0 groups
    if 1 < length then colons (groups.take start) ++ "::" ++ colons (groups.drop (start + length))
    else colons groups

/-- The address with a port. -/
def withPort (port : Nat) : Host → String
  | .v4 octets => (Host.v4 octets).text ++ ":" ++ Decimal.natText port
  | .v6 groups => "[" ++ (Host.v6 groups).text ++ "]:" ++ Decimal.natText port

/-- This computer. -/
def localhost : Host := .v4 [127, 0, 0, 1]

end Host

end Dunning
