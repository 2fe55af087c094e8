import Dunning.Decimal.Reading
import Dunning.Json.Printer
import Dunning.Json.Tree

/-!
# Json/Shape — what a tree is read as

A `Shape` reads a tree as a value of some type and reports the first thing that does not fit. The
same shape serves a text, a value that stands by itself, and a part that was buffered until its kind
was known; the few places where these differ ask for the `Source`. Lenient shapes serve the payloads
of authoring forms, where a cleared input is `null` and a number may be text: they fit every tree
that can be read at all.
-/

namespace Dunning

open Json

/-- Where a tree comes from. -/
inductive Source where
  /-- A text, read as it goes. -/
  | text
  /-- A value. -/
  | value
  /-- A part that was read whole and is now looked at again. -/
  | buffer
  deriving Repr, DecidableEq

/-- How a tree is read as a value of a type. -/
abbrev Shape (α : Type) : Type := Source → Tree → Except JsonFault α

namespace Shape

/-- What `load` and the like report, as a fault of reading. -/
def lift {α : Type} : Except Malformed α → Except JsonFault α
  | .ok a => .ok a
  | .error fault => .error (.malformed fault)

/-- JSON of the wrong shape. -/
def mismatch {α : Type} (cause : Mismatch) : Except JsonFault α :=
  .error (.mismatch cause)

/-- Something else than what is wanted. -/
def unwanted {α : Type} (wanted : String) (t : Tree) : Except JsonFault α :=
  match t.found with
  | .ok found => mismatch (.wrongType found wanted)
  | .error fault => .error (.malformed fault)

/-! ## Scalars -/

/-- A string. -/
def string : Shape String := fun _ t =>
  match t with
  | .string s => .ok s
  | t => unwanted "a string" t

/-- A number, as a double. -/
def number : Shape Float := fun _ t =>
  match t with
  | .integer n => .ok (Decimal.ofInt n)
  | .float x => .ok x
  | t => unwanted "f64" t

/-- An integer from `least` to `greatest`. -/
def whole (least greatest : Int) (wanted : String) : Shape Int := fun _ t =>
  match t with
  | .integer n =>
    if least ≤ n ∧ n ≤ greatest then .ok n else mismatch (.wrongValue (.integer n) wanted)
  | t => unwanted wanted t

/-- A string that a reader of texts accepts. -/
def parsed {α : Type} (wanted : String) (read : String → Except Mismatch α) : Shape α := fun _ t =>
  match t with
  | .string s => (read s).mapError .mismatch
  | t => unwanted wanted t

/-- A date. -/
def date : Shape Date :=
  parsed "a formatted date string" fun s => (Date.parse s).mapError .badDate

/-- Any value. -/
def any : Shape Json := fun _ t => lift (load t)

/-- A value, or `null`. -/
def optional {α : Type} (shape : Shape α) : Shape (Option α) := fun source t =>
  match t with
  | .null => .ok none
  | t => (shape source t).map some

/-! ## Lists -/

/-- Reads the items of a sequence one by one. -/
def itemsOf {α : Type} (shape : Shape α) (source : Source) : List Tree → Except JsonFault (List α)
  | [] => .ok []
  | item :: items => do
    let a ← shape source item
    let as ← itemsOf shape source items
    .ok (a :: as)

/-- A sequence. -/
def list {α : Type} (shape : Shape α) : Shape (List α) := fun source t =>
  match t with
  | .array items stop => do
    let as ← itemsOf shape source items
    lift (stop.finish as)
  | .deep (.array _ _) => .error (.malformed .tooDeep)
  | t => unwanted "a sequence" t

/-! ## Names out of a fixed choice

A choice is a string. It may also be written as an object with the name as its only key and `null`
as the value; a text then has its own wording for what goes wrong. -/

/-- The meaning of a name. -/
def lookUp {α : Type} (choices : List (String × α)) (name : String) : Except Mismatch α :=
  match choices.lookup name with
  | some a => .ok a
  | none => .error (.unknownVariant name (choices.map Prod.fst))

/-- The value beside a name: nothing. -/
def unit : Shape Unit := fun source t =>
  match source, t with
  | _, .null => .ok ()
  | .buffer, .object [] .closed => .ok ()
  | _, t => unwanted "unit" t

/-- Something else than a name or a map. -/
def noChoice {α : Type} (source : Source) (t : Tree) : Except JsonFault α :=
  match source, t with
  | .text, .stuck read _ => .error (.malformed read)
  | .text, .unreadable fault => .error (.malformed fault)
  | .text, _ => .error (.malformed .noValue)
  | _, t => unwanted "string or map" t

/-- The end of a choice that a text writes as an object. -/
def endOfChoice {α : Type} (a : α) (more : List (Key × Tree)) (stop : Stop) : Except JsonFault α :=
  match more, stop with
  | [], .closed => .ok a
  | [], .broken .endInObject _ _ => .error (.malformed .endInObject)
  | _, _ => .error (.malformed .noValue)

/-- A choice that a text writes as an object. -/
def textChoice {α : Type} (choices : List (String × α)) (members : List (Key × Tree))
    (stop : Stop) : Except JsonFault α :=
  match members with
  | [] => match stop with
    | .broken .endInObject _ _ => .error (.malformed .endInValue)
    | .broken fault _ _ => .error (.malformed fault)
    | .closed => .error (.malformed .noValue)
  | (.misplaced, item) :: _ => unwanted "variant identifier" item
  | (.unreadable fault, _) :: _ => .error (.malformed fault)
  | (.name name, item) :: more => do
    let a ← (lookUp choices name).mapError .mismatch
    unit .text item
    endOfChoice a more stop

/-- One of the names. -/
def oneOf {α : Type} (choices : List (String × α)) : Shape α := fun source t =>
  match t with
  | .string s => (lookUp choices s).mapError .mismatch
  | .object members stop =>
    match source, members with
    | .text, _ => textChoice choices members stop
    | _, [(.name name, item)] => do
      let a ← (lookUp choices name).mapError .mismatch
      unit source item
      .ok a
    | _, _ => mismatch (.wrongValue .map "map with a single key")
  | .deep (.object _ _) => .error (.malformed .tooDeep)
  | t => noChoice source t

/-! ## Lenient shapes -/

/-- The text of a form input: `null` is empty, and what is no string shows its JSON text. -/
def textOf : Json → String
  | .null => ""
  | .string s => s
  | j => compact j

/-- The number of a form input, NaN where there is none. -/
def numberOf : Json → Float
  | .integer n => Decimal.ofInt n
  | .float x => x
  | .string s => Decimal.figure s
  | _ => Decimal.nan

/-- The flag of a form input: set only by `true`. -/
def flagOf : Json → Bool
  | .bool b => b
  | _ => false

/-- The text of a form input. -/
def lenientText : Shape String := fun source t => (any source t).map textOf

/-- The number of a form input. -/
def lenientNumber : Shape Float := fun source t => (any source t).map numberOf

/-- The flag of a form input. -/
def lenientFlag : Shape Bool := fun source t => (any source t).map flagOf

end Shape

end Dunning
