import Dunning.Json.Record

/-!
# Csv/Column — fields that documents and tables share

A `Datum` is a kind of value that is read from a JSON tree as well as from the text of a cell; a
`Column` is a field of a structure that is read both ways. An empty cell leaves an optional value
unset.
-/

namespace Dunning

/-- What can be wrong with the number in a cell. -/
inductive NumberFault where
  | notFloat
  | notInteger (fault : Decimal.IntegerFault)
  deriving Repr, DecidableEq

/-- The wording of a fault. -/
def NumberFault.message : NumberFault → String
  | .notFloat => "invalid float literal"
  | .notInteger fault => fault.message

/-- What can be wrong with a cell. -/
inductive CellFault where
  | number (fault : NumberFault)
  | mismatch (cause : Mismatch)
  deriving Repr, DecidableEq

/-- A kind of value in documents and cells. -/
structure Datum (α : Type) where
  shape : Shape α
  cell : String → Except CellFault α

namespace Datum

variable {α β : Type}

/-- A text. -/
def text : Datum String := ⟨Shape.string, .ok⟩

/-- A double. -/
def number : Datum Float where
  shape := Shape.number
  cell s := match Decimal.float? s with
    | some x => .ok x
    | none => .error (.number .notFloat)

/-- An integer from `least` to `greatest`; a cell may write it in base sixteen. -/
def whole (least greatest : Int) (wanted : String) : Datum Int where
  shape := Shape.whole least greatest wanted
  cell s :=
    let read := match s.toList with
      | '0' :: 'x' :: cs => Decimal.integer 16 least greatest cs
      | cs => Decimal.integer 10 least greatest cs
    read.mapError fun fault => .number (.notInteger fault)

/-- A date. -/
def date : Datum Date where
  shape := Shape.date
  cell s := (Date.parse s).mapError fun fault => .mismatch (.badDate fault)

/-- One of the names. -/
def oneOf (choices : List (String × α)) : Datum α where
  shape := Shape.oneOf choices
  cell s := (Shape.lookUp choices s).mapError .mismatch

/-- Another view of the same value. -/
def map (f : α → β) (d : Datum α) : Datum β where
  shape source t := (d.shape source t).map f
  cell s := (d.cell s).map f

/-- An integer of 32 bits. -/
def int32 : Datum Int32 :=
  (whole (-2147483648) 2147483647 "i32").map Int32.ofInt

/-- A count of 32 bits. -/
def uint32 : Datum UInt32 :=
  (whole 0 4294967295 "u32").map fun n => UInt32.ofNat n.toNat

/-- A value that may be unset. -/
def optional (d : Datum α) : Datum (Option α) where
  shape := Shape.optional d.shape
  cell s := if s = "" then .ok none else (d.cell s).map some

end Datum

/-- A field of a structure that is read from documents and from cells. -/
structure Column (σ : Type) where
  field : Field σ
  /-- Reads a cell into the structure. -/
  fill : String → σ → Except CellFault σ

/-- The column with this name and these aliases. -/
def Column.make {σ α : Type} (name : String) (aliases : List String) (required : Bool)
    (datum : Datum α) (set : α → σ → σ) : Column σ :=
  ⟨Field.make name aliases required datum.shape set,
    fun cell s => (datum.cell cell).map fun a => set a s⟩

end Dunning
