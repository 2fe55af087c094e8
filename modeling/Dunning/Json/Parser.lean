import Dunning.Json.Number
import Dunning.Json.Quoted

/-!
# Json/Parser — trees out of text

`Document.parse` reads the first value of a text and notes whether anything but blanks follows it.
The recursion is bounded by the length of the text, since every bracket takes a character.
-/

namespace Dunning.Json

open Dunning.Text

/-- The blanks between the parts of a text. -/
def isSpace (c : Char) : Bool :=
  c == ' ' || c == '\n' || c == '\t' || c == '\r'

/-- Passes over blanks. -/
def skipSpace (cs : List Glyph) : List Glyph :=
  cs.dropWhile fun g => match g with
    | some c => isSpace c
    | none => false

/-- How many brackets may stand within each other. -/
def maxDepth : Nat := 127

/-- A tree and the text after it, if reading can go on there. -/
abbrev Step := Tree × Option (List Glyph)

/-- Reading ends here. -/
def Step.stop (read skip : Malformed) : Step :=
  (.stuck read skip, none)

/-- The rest of a word. -/
def word (meaning : Tree) : List Char → List Glyph → Step
  | [], rest => (meaning, some rest)
  | c :: cs, rest =>
    match rest with
    | [] => Step.stop .endInValue .endInValue
    | g :: rest =>
      if g = some c then word meaning cs rest else Step.stop .noWord .noWord

/-- A string whose opening quote has been read. -/
def text (cs : List Glyph) : Step :=
  let quoted := Quoted.read cs
  match quoted.content, quoted.after with
  | .ok s, .ok rest => (.string s, some rest)
  | .error read, .ok rest => (.unreadable read, some rest)
  | .ok _, .error skip => Step.stop skip skip
  | .error read, .error skip => Step.stop read skip

/-- A number after its sign. -/
def number (negative : Bool) (cs : List Glyph) : Step :=
  match magnitude negative cs with
  | .ok (tree, rest) => (tree, some rest)
  | .error tree => (tree, none)

/-- A word, a string or a number, told by its first character. -/
def scalar (c : Char) (rest : List Glyph) : Step :=
  if c = 'n' then word .null ['u', 'l', 'l'] rest
  else if c = 't' then word (.bool true) ['r', 'u', 'e'] rest
  else if c = 'f' then word (.bool false) ['a', 'l', 's', 'e'] rest
  else if c = '"' then text rest
  else if c = '-' then number true rest
  else if Decimal.isDigit c then number false (some c :: rest)
  else Step.stop .noValue .noValue

/-- A bracket and what it holds: too deep to be read where no depth is left. -/
def bracket (depth : Nat) (tree : Tree) : Tree :=
  if depth = 0 then .deep tree else tree

/-- The colon after a key. -/
def colon (cs : List Glyph) : Except Malformed (List Glyph) :=
  match skipSpace cs with
  | [] => .error .endInObject
  | g :: rest => if g = some ':' then .ok rest else .error .noColon

/-- What comes after an item. -/
inductive Next where
  | another (rest : List Glyph)
  | finished (stop : Stop) (rest : Option (List Glyph))

/-- Reading ends here, with the same fault for a reader and for one who passes over. -/
def Next.broken (fault exact : Malformed) : Next :=
  .finished (.broken fault fault exact) none

/-- The comma or closing bracket after an item. -/
def afterItem (cs : List Glyph) : Next :=
  match skipSpace cs with
  | [] => .broken .endInArray .endInArray
  | g :: rest =>
    if g = some ']' then .finished .closed (some rest)
    else if g = some ',' then
      match skipSpace rest with
      | [] => .broken .endInValue .trailingText
      | h :: rest =>
        if h = some ']' then .finished (.broken .trailingComma .noValue .trailingComma) none
        else .another (h :: rest)
    else .broken .noCommaOrBracket .trailingText

/-- The comma or closing brace after a member. -/
def afterMember (cs : List Glyph) : Next :=
  match skipSpace cs with
  | [] => .broken .endInObject .endInObject
  | g :: rest =>
    if g = some '\x7d' then .finished .closed (some rest)
    else if g = some ',' then
      match skipSpace rest with
      | [] => .finished (.broken .endInValue .endInObject .endInValue) none
      | h :: rest =>
        if h = some '\x7d' then .finished (.broken .trailingComma .keyNotString .trailingComma) none
        else .another (h :: rest)
    else .broken .noCommaOrBrace .noCommaOrBrace

mutual

/-- Reads a value. -/
def value : Nat → Nat → List Glyph → Step
  | 0, _, _ => Step.stop .noValue .noValue
  | fuel + 1, depth, cs =>
    match skipSpace cs with
    | [] => Step.stop .endInValue .endInValue
    | none :: _ => Step.stop .noValue .noValue
    | some c :: rest =>
      if c = '[' then
        let (items, stop, rest) := match skipSpace rest with
          | [] => ([], .broken .endInArray .endInArray .endInArray, none)
          | g :: rest =>
            if g = some ']' then ([], .closed, some rest)
            else items fuel (depth - 1) (g :: rest)
        (bracket depth (.array items stop), rest)
      else if c = '\x7b' then
        let (members, stop, rest) := match skipSpace rest with
          | [] => ([], .broken .endInObject .endInObject .endInObject, none)
          | g :: rest =>
            if g = some '\x7d' then ([], .closed, some rest)
            else members fuel (depth - 1) (g :: rest)
        (bracket depth (.object members stop), rest)
      else scalar c rest

/-- Reads items, at least one, up to the closing bracket. -/
def items : Nat → Nat → List Glyph → List Tree × Stop × Option (List Glyph)
  | 0, _, _ => ([], .broken .noValue .noValue .noValue, none)
  | fuel + 1, depth, cs =>
    match value fuel depth cs with
    | (item, none) => ([item], .closed, none)
    | (item, some rest) =>
      match afterItem rest with
      | .finished stop rest => ([item], stop, rest)
      | .another rest =>
        let (more, stop, rest) := items fuel depth rest
        (item :: more, stop, rest)

/-- Reads members, at least one, up to the closing brace. -/
def members : Nat → Nat → List Glyph → List (Key × Tree) × Stop × Option (List Glyph)
  | 0, _, _ => ([], .broken .noValue .noValue .noValue, none)
  | fuel + 1, depth, cs =>
    match cs with
    | [] => ([], .broken .endInObject .endInObject .endInObject, none)
    | g :: rest =>
      if g = some '"' then
        let quoted := Quoted.read rest
        let key := match quoted.content with
          | .ok s => Key.name s
          | .error fault => Key.unreadable fault
        match quoted.after with
        | .error skip =>
          let read := match quoted.content with
            | .ok _ => skip
            | .error fault => fault
          ([], .broken read skip read, none)
        | .ok rest =>
          match colon rest with
          | .error fault => ([(key, .stuck fault fault)], .closed, none)
          | .ok rest =>
            match value fuel depth rest with
            | (item, none) => ([(key, item)], .closed, none)
            | (item, some rest) =>
              match afterMember rest with
              | .finished stop rest => ([(key, item)], stop, rest)
              | .another rest =>
                let (more, stop, rest) := members fuel depth rest
                ((key, item) :: more, stop, rest)
      else
        let (item, _) := value fuel depth (g :: rest)
        ([(.misplaced, item)], .closed, none)

end

/-- The first value of a text, and whether anything but blanks follows it. -/
structure Document where
  tree : Tree
  trailing : Bool

/-- Reads a text. -/
def Document.parse (cs : List Glyph) : Document :=
  match value (2 * cs.length + 2) maxDepth cs with
  | (tree, some rest) => ⟨tree, !(skipSpace rest).isEmpty⟩
  | (tree, none) => ⟨tree, false⟩

/-- What follows the first value is no part of a text. -/
def Document.finish {α : Type} (d : Document) (a : α) : Except JsonFault α :=
  if d.trailing then .error (.malformed .trailingText) else .ok a

/-- Reads all of a text into a value. -/
def Document.load (d : Document) : Except Malformed Json := do
  let j ← Json.load d.tree
  if d.trailing then .error .trailingText else .ok j

/-- The value of a text. -/
def parse (s : String) : Except Malformed Json :=
  (Document.parse (glyphsOf s)).load

end Dunning.Json
