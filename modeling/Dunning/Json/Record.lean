import Dunning.Json.Shape

/-!
# Json/Record — structures with named fields

A `Record` says how a structure is read: it starts from a blank and puts in one field after another.
Fields are found by name or alias, and unknown members are passed over; a field that occurs twice,
also under two names, is a fault, and so is a required field that is missing. A sequence is read
too, its items in the order of the fields.
-/

namespace Dunning

open Json

/-- A field of a structure. -/
structure Field (σ : Type) where
  name : String
  aliases : List String
  /-- The field has no default. -/
  required : Bool
  /-- Reads the field into the structure. -/
  put : Source → Tree → σ → Except JsonFault σ

namespace Field

variable {σ α : Type}

/-- A field of the given shape. -/
def make (name : String) (aliases : List String) (required : Bool) (shape : Shape α)
    (set : α → σ → σ) : Field σ :=
  ⟨name, aliases, required, fun source t s => (shape source t).map fun a => set a s⟩

/-- A field without a default. -/
def needed (name : String) (shape : Shape α) (set : α → σ → σ) : Field σ :=
  make name [] true shape set

/-- A field that keeps its blank value where it is missing. -/
def defaulted (name : String) (shape : Shape α) (set : α → σ → σ) : Field σ :=
  make name [] false shape set

/-- The field goes by this name. -/
def answersTo (key : String) (f : Field σ) : Bool :=
  key == f.name || f.aliases.contains key

end Field

/-- How a structure is read. -/
structure Record (σ : Type) where
  title : String
  blank : σ
  fields : List (Field σ)

namespace Record

variable {σ : Type}

/-- A count with its noun. -/
def counted (n : Nat) (noun : String) : String :=
  Decimal.natText n ++ " " ++ noun ++ (if n = 1 then "" else "s")

/-- What a record calls itself where too few items stand for it. -/
def expectation (r : Record σ) : String :=
  r.title ++ " with " ++ counted r.fields.length "element"

/-! ## From a map -/

/-- The first required field that is not among those read. -/
def missing? (fields : List (Field σ)) (seen : List String) : Option String :=
  (fields.find? fun f => f.required && !seen.contains f.name).map Field.name

/-- The end of a map. -/
def finish (r : Record σ) (stop : Stop) (seen : List String) (s : σ) : Except JsonFault σ := do
  let s ← Shape.lift (stop.finish s)
  match missing? r.fields seen with
  | some name => Shape.mismatch (.missingField name)
  | none => .ok s

/-- Reads the members of a map, some fields having been read. -/
def fromMembers (r : Record σ) (source : Source) (stop : Stop) (seen : List String) (s : σ) :
    List (Key × Tree) → Except JsonFault σ
  | [] => r.finish stop seen s
  | (.misplaced, _) :: _ => .error (.malformed .keyNotString)
  | (.unreadable fault, _) :: _ => .error (.malformed fault)
  | (.name key, item) :: members =>
    match r.fields.find? (Field.answersTo key) with
    | none =>
      match skipFault item with
      | some fault => .error (.malformed fault)
      | none => fromMembers r source stop seen s members
    | some f =>
      if seen.contains f.name then Shape.mismatch (.duplicateField f.name)
      else do
        let s ← f.put source item s
        fromMembers r source stop (f.name :: seen) s members

/-! ## From a sequence -/

/-- The end of a sequence of which `length` items have been read, all that are wanted. -/
def exactEnd (source : Source) (length : Nat) (rest : List Tree) (stop : Stop) (s : σ) :
    Except JsonFault σ :=
  match source, rest, stop with
  | _, [], .closed => .ok s
  | _, [], .broken _ _ exact => .error (.malformed exact)
  | .text, _, _ => .error (.malformed .trailingText)
  | .value, rest, _ =>
    Shape.mismatch (.wrongLength (length + rest.length) "fewer elements in array")
  | .buffer, rest, _ =>
    Shape.mismatch
      (.wrongLength (length + rest.length) (counted length "element" ++ " in sequence"))

/-- Reads the items of a sequence into the fields that are left. -/
def fromItems (r : Record σ) (source : Source) (stop : Stop) (length : Nat) (s : σ) :
    List (Field σ) → List Tree → Except JsonFault σ
  | [], rest => exactEnd source length rest stop s
  | f :: fields, [] => do
    let _ ← Shape.lift (stop.finish ())
    if f.required then Shape.mismatch (.wrongLength length r.expectation)
    else fromItems r source stop (length + 1) s fields []
  | f :: fields, item :: items => do
    let s ← f.put source item s
    fromItems r source stop (length + 1) s fields items

/-- The shape of a record. -/
def read (r : Record σ) : Shape σ := fun source t =>
  match t with
  | .object members stop => r.fromMembers source stop [] r.blank members
  | .array items stop => r.fromItems source stop 0 r.blank r.fields items
  | .deep (.object _ _) | .deep (.array _ _) => .error (.malformed .tooDeep)
  | t => Shape.unwanted r.title t

end Record

end Dunning
