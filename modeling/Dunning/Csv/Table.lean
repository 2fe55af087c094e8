import Dunning.Csv.Column
import Dunning.Csv.Row
import Dunning.Text.Utf8

/-!
# Csv/Table — structures out of rows

The first row names the columns, and each further row gives one structure. Rows are as long as the
first; blanks around names and cells are dropped; columns of unknown name are passed over. Where the
names are not well-formed text, the cells are taken in the order of the structure's fields. Reading
stops at the first fault.
-/

namespace Dunning.Csv

open Dunning.Text

/-- What can be wrong with a row. -/
inductive Fault where
  | badNumber (start : Position) (column : Nat) (fault : NumberFault)
  | mismatch (start : Position) (cause : Mismatch)
  | unequalLengths (start : Position) (expected found : Nat)
  | badEncoding (start : Position) (column : Nat) (valid : Nat)
  deriving Repr, DecidableEq

namespace Fault

/-- The place of a row, as a fault names it. -/
def place (p : Position) : String :=
  "record " ++ Decimal.natText p.record ++ " (line: " ++ Decimal.natText p.line ++ ", byte: " ++
    Decimal.natText p.byte ++ "): "

/-- The wording of a fault. -/
def message : Fault → String
  | .badNumber start column fault =>
    "CSV deserialize error: " ++ place start ++ "field " ++ Decimal.natText column ++ ": " ++
      fault.message
  | .mismatch start cause => "CSV deserialize error: " ++ place start ++ cause.message
  | .unequalLengths start expected found =>
    "CSV error: " ++ place start ++ "found record with " ++ Decimal.natText found ++
      " fields, but the previous record has " ++ Decimal.natText expected ++ " fields"
  | .badEncoding start column valid =>
    "CSV parse error: record " ++ Decimal.natText start.record ++ " (line " ++
      Decimal.natText start.line ++ ", field: " ++ Decimal.natText column ++ ", byte: " ++
      Decimal.natText start.byte ++ "): invalid utf-8: invalid UTF-8 in field " ++
      Decimal.natText column ++ " near byte index " ++ Decimal.natText valid

end Fault

variable {σ : Type}

/-- The cells of a row as texts, or the first that is none and how much of it is well formed. -/
def decode (column : Nat) : List (List UInt8) → Except (Nat × Nat) (List String)
  | [] => .ok []
  | field :: fields =>
    let bytes := trimBy isBlankByte field
    match Utf8.decode? bytes with
    | none => .error (column, Utf8.wellFormedBytes bytes)
    | some s => (decode (column + 1) fields).map (trim s :: ·)

/-- A fault of a cell, at its place. -/
def atCell (start : Position) (column : Nat) : CellFault → Fault
  | .number fault => .badNumber start column fault
  | .mismatch cause => .mismatch start cause

/-- Reads named cells into a structure, some fields having been read. -/
def fromNamed (columns : List (Column σ)) (start : Position) (column : Nat) (seen : List String)
    (s : σ) : List (String × String) → Except Fault σ
  | [] =>
    match Record.missing? (columns.map Column.field) seen with
    | some name => .error (.mismatch start (.missingField name))
    | none => .ok s
  | (name, cell) :: cells =>
    match columns.find? fun c => c.field.answersTo name with
    | none => fromNamed columns start (column + 1) seen s cells
    | some c =>
      if seen.contains c.field.name then
        .error (.mismatch start (.duplicateField c.field.name))
      else do
        let s ← (c.fill cell s).mapError (atCell start column)
        fromNamed columns start (column + 1) (c.field.name :: seen) s cells

/-- Reads cells into a structure in the order of its fields. -/
def fromOrdered (start : Position) (column : Nat) (s : σ) :
    List (Column σ) → List String → Except Fault σ
  | c :: columns, cell :: cells => do
    let s ← (c.fill cell s).mapError (atCell start column)
    fromOrdered start (column + 1) s columns cells
  | _, _ => .ok s

/-- Reads a row. -/
def readRow (columns : List (Column σ)) (blank : σ) (names : Option (List String)) (width : Nat)
    (row : Row) : Except Fault σ :=
  if row.fields.length ≠ width then
    .error (.unequalLengths row.start width row.fields.length)
  else match decode 0 row.fields with
    | .error (column, valid) => .error (.badEncoding row.start column valid)
    | .ok cells =>
      match names with
      | some names => fromNamed columns row.start 0 [] blank (names.zip cells)
      | none => fromOrdered row.start 0 blank columns cells

/-- Reads a table. -/
def read (columns : List (Column σ)) (blank : σ) (bytes : List UInt8) : Except Fault (List σ) :=
  match rows bytes with
  | [] => .ok []
  | header :: rows =>
    let names := match decode 0 header.fields with
      | .ok names => some names
      | .error _ => none
    rows.mapM (readRow columns blank names header.fields.length)

end Dunning.Csv
