import Dunning.Json.Record
import Dunning.Text.Blank

/-!
# Condition/Basic — what a condition asks of an account

A condition compares an attribute of an account with a literal. Attributes and comparisons are read
from text under several spellings and written under one; a text that names none is kept as it is, so
that nothing an author wrote is lost.
-/

namespace Dunning

/-- What a condition looks at. -/
inductive Attribute where
  | band
  | balance
  | daysInArrears
  | category
  | other (name : String)
  deriving Repr, DecidableEq

namespace Attribute

/-- The attributes by name; a name may have several spellings. -/
def spellings : List (String × Attribute) :=
  [("delinquency_band", .band), ("band", .band), ("current_balance", .balance),
    ("balance", .balance), ("days_past_due", .daysInArrears),
    ("days_in_arrears", .daysInArrears), ("debt_category", .category)]

/-- The attribute a text names, blanks around it aside. -/
def ofText (s : String) : Attribute :=
  (spellings.lookup (Text.trim s)).getD (.other s)

/-- The text of an attribute. -/
def text : Attribute → String
  | .band => "delinquency_band"
  | .balance => "current_balance"
  | .daysInArrears => "days_past_due"
  | .category => "debt_category"
  | .other name => name

end Attribute

/-- How a condition compares. -/
inductive Comparison where
  | equals
  | notEquals
  | greaterThan
  | lessThan
  | contains
  | between
  | inList
  | isEmpty
  | isNotEmpty
  | other (name : String)
  deriving Repr, DecidableEq

namespace Comparison

/-- The text of a comparison. -/
def text : Comparison → String
  | .equals => "equals"
  | .notEquals => "not_equals"
  | .greaterThan => "greater_than"
  | .lessThan => "less_than"
  | .contains => "contains"
  | .between => "between"
  | .inList => "in_list"
  | .isEmpty => "is_empty"
  | .isNotEmpty => "is_not_empty"
  | .other name => name

/-- The comparisons by name. -/
def spellings : List (String × Comparison) :=
  [.equals, .notEquals, .greaterThan, .lessThan, .contains, .between, .inList, .isEmpty,
    .isNotEmpty].map fun c => (c.text, c)

/-- The comparison a text names, blanks around it aside. -/
def ofText (s : String) : Comparison :=
  (spellings.lookup (Text.trim s)).getD (.other s)

end Comparison

/-- What a condition compares with. -/
inductive Literal where
  | number (x : Float)
  | text (s : String)
  | list (items : List Literal)
  /-- A cleared input. -/
  | empty
  deriving Repr, BEq, Inhabited

namespace Literal

mutual

/-- Equality of literals is decidable. -/
def decEq : (a b : Literal) → Decidable (a = b)
  | .number a, .number b => decidable_of_iff (a = b) (by simp)
  | .text a, .text b => decidable_of_iff (a = b) (by simp)
  | .list a, .list b =>
    have := decEqItems a b
    decidable_of_iff (a = b) (by simp)
  | .empty, .empty => isTrue rfl
  | .number _, .text _ | .number _, .list _ | .number _, .empty | .text _, .number _
  | .text _, .list _ | .text _, .empty | .list _, .number _ | .list _, .text _
  | .list _, .empty | .empty, .number _ | .empty, .text _ | .empty, .list _ => isFalse (by simp)

/-- Equality of lists of literals is decidable. -/
def decEqItems : (a b : List Literal) → Decidable (a = b)
  | [], [] => isTrue rfl
  | [], _ :: _ => isFalse (by simp)
  | _ :: _, [] => isFalse (by simp)
  | x :: xs, y :: ys =>
    have := decEq x y
    have := decEqItems xs ys
    decidable_of_iff (x = y ∧ xs = ys) (by simp)

end

instance : DecidableEq Literal := decEq

mutual

/-- The literal a value writes: numbers, texts, `null`, and lists of these. -/
def ofJson? : Json → Option Literal
  | .integer n => some (.number (Decimal.ofInt n))
  | .float x => some (.number x)
  | .string s => some (.text s)
  | .null => some .empty
  | .array items => (ofItems? items).map .list
  | .bool _ | .object _ => none

/-- The literals a list of values writes. -/
def ofItems? : List Json → Option (List Literal)
  | [] => some []
  | item :: items =>
    match ofJson? item, ofItems? items with
    | some literal, some literals => some (literal :: literals)
    | _, _ => none

end

mutual

/-- Writes a literal. -/
def toJson : Literal → Json
  | .number x => .ofFloat x
  | .text s => .string s
  | .list items => .array (itemsJson items)
  | .empty => .null

/-- Writes the items of a list. -/
def itemsJson : List Literal → List Json
  | [] => []
  | item :: items => toJson item :: itemsJson items

end

/-- How a literal is read. -/
def shape : Shape Literal := fun source t => do
  let j ← Shape.any source t
  match ofJson? j with
  | some literal => .ok literal
  | none => Shape.mismatch (.noVariant "ConditionValue")

end Literal

/-- A condition. -/
structure Condition where
  title : String
  subject : Attribute
  comparison : Comparison
  literal : Literal
  deriving Repr, DecidableEq

namespace Condition

/-- A condition of which nothing has been filled in. -/
def blank : Condition := ⟨"", .other "", .other "", .text ""⟩

/-- How a condition is read. -/
def record : Record Condition where
  title := "struct ConditionData"
  blank := blank
  fields :=
    [ .defaulted "title" Shape.lenientText fun v c => { c with title := v },
      .defaulted "field" Shape.lenientText fun v c => { c with subject := .ofText v },
      .defaulted "operator" Shape.lenientText fun v c => { c with comparison := .ofText v },
      .defaulted "value" Literal.shape fun v c => { c with literal := v } ]

/-- Reads a value as a condition. -/
def ofJson (j : Json) : Except JsonFault Condition :=
  record.read .value j.toTree

/-- Writes a condition. -/
def toJson (c : Condition) : Json :=
  .object [("title", .string c.title), ("field", .string c.subject.text),
    ("operator", .string c.comparison.text), ("value", c.literal.toJson)]

end Condition

end Dunning
