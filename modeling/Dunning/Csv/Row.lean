import Dunning.Text.Blank

/-!
# Csv/Row — rows and fields out of bytes

Commas divide fields, and a line feed or a carriage return ends a row. A quote at the very start of
a field opens a quoted part, in which two quotes stand for one; what follows the closing quote is
taken as it is. Empty lines are no rows. A row's `Position` is where reading of it began: right
after the byte that ended the row before.
-/

namespace Dunning.Csv

/-- Where reading of a row began: how many rows, lines and bytes precede it,
lines counted from one. -/
structure Position where
  record : Nat
  line : Nat
  byte : Nat
  deriving Repr, DecidableEq

/-- The fields of a row. -/
structure Row where
  start : Position
  fields : List (List UInt8)
  deriving Repr, DecidableEq

/-- What the next byte belongs to. -/
inductive Place where
  | betweenRows
  | fieldStart
  | plain
  | quoted
  | afterQuote
  deriving Repr, DecidableEq

/-- A reader of bytes. What has been read stands in reverse order. -/
structure Scanner where
  place : Place
  /-- Where the row being read began. -/
  start : Position
  /-- Where the next byte stands. -/
  here : Position
  field : List UInt8
  fields : List (List UInt8)
  rows : List Row

namespace Scanner

/-- At the first byte of a text, `skipped` bytes into it. -/
def first (skipped : Nat) : Scanner :=
  ⟨.betweenRows, ⟨0, 1, 0⟩, ⟨0, 1, skipped⟩, [], [], []⟩

/-- Line feed and carriage return. -/
def isLineEnd (b : UInt8) : Bool := b == 10 || b == 13

/-- Past one more byte. -/
def advance (s : Scanner) (b : UInt8) : Scanner :=
  { s with here :=
      { s.here with byte := s.here.byte + 1, line := s.here.line + (if b = 10 then 1 else 0) } }

/-- Adds a byte to the field. -/
def push (s : Scanner) (place : Place) (b : UInt8) : Scanner :=
  { s with place := place, field := b :: s.field }

/-- Ends the field. -/
def endField (s : Scanner) : Scanner :=
  { s with place := .fieldStart, field := [], fields := s.field.reverse :: s.fields }

/-- Ends the row, and the field with it. -/
def endRow (s : Scanner) : Scanner :=
  let next := { s.here with record := s.here.record + 1 }
  { place := .betweenRows, start := next, here := next, field := [], fields := []
    rows := ⟨s.start, (s.field.reverse :: s.fields).reverse⟩ :: s.rows }

/-- A byte outside quotes: the end of a field or row, or part of a field. -/
def unquoted (s : Scanner) (b : UInt8) : Scanner :=
  if b = 44 then s.endField
  else if isLineEnd b then s.endRow
  else s.push .plain b

/-- Reads a byte. -/
def step (before : Scanner) (b : UInt8) : Scanner :=
  let s := before.advance b
  match s.place with
  | .betweenRows =>
    if isLineEnd b then s
    else if b = 34 then { s with place := .quoted }
    else s.unquoted b
  | .fieldStart => if b = 34 then { s with place := .quoted } else s.unquoted b
  | .plain => s.unquoted b
  | .quoted => if b = 34 then { s with place := .afterQuote } else s.push .quoted b
  | .afterQuote => if b = 34 then s.push .quoted b else s.unquoted b

/-- The rows, once no byte is left. -/
def finish (s : Scanner) : List Row :=
  (if s.place = .betweenRows then s else s.endRow).rows.reverse

end Scanner

/-- The rows of a text, after the mark that may open it. -/
def rows (bytes : List UInt8) : List Row :=
  let (skipped, rest) := match bytes with
    | 0xEF :: 0xBB :: 0xBF :: rest => (3, rest)
    | rest => (0, rest)
  (rest.foldl Scanner.step (Scanner.first skipped)).finish

end Dunning.Csv
