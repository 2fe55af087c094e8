import Dunning.Account.Basic
import Dunning.Condition.Basic
import Dunning.Decimal.Layout
import Dunning.Decimal.Reading
import Dunning.Text.Case
import Dunning.Text.Pieces

/-!
# Condition/Holds — when a condition holds of an account

Comparisons are loose, as in a form: a text that shows a number compares as one, and a list compares
as the text of its items with commas between them. What shows no number counts as NaN, so that no
order holds of it, rather than as zero.
-/

namespace Dunning

open Dunning.Text

/-- An attribute of an account, as a condition sees it. -/
inductive Value where
  | number (x : Float)
  | text (s : String)
  | missing
  deriving Repr, DecidableEq

namespace Value

/-- A figure that may be missing. -/
def ofNumber : Option Float → Value
  | some x => .number x
  | none => .missing

/-- A text that may be missing. -/
def ofText : Option String → Value
  | some s => .text s
  | none => .missing

/-- The attribute of an account, unless conditions do not see it. -/
def of? (a : Account) : Attribute → Option Value
  | .band => some (ofText a.band)
  | .balance => some (ofNumber a.balance)
  | .daysInArrears => some (ofNumber a.daysInArrears)
  | .category => some (ofText a.category)
  | .other _ => none

/-- The number that a value shows. -/
def figure : Value → Float
  | .number x => x
  | .text s => Decimal.figure s
  | .missing => Decimal.nan

/-- The text that a value shows. -/
def shown? : Value → Option String
  | .number x => some (Decimal.Layout.plain.write x)
  | .text s => some s
  | .missing => none

/-- Nothing, or nothing but blanks. -/
def isEmpty : Value → Bool
  | .missing => true
  | .text s => isBlankText s
  | .number _ => false

/-- A value is equal to a text: by number, where the value is one. -/
def equalsText : Value → String → Bool
  | .missing, _ => false
  | .number x, s => x == Decimal.figure s
  | .text t, s => t == s

end Value

namespace Literal

mutual

/-- The text that a literal shows. -/
def shown : Literal → String
  | .number x => Decimal.Layout.plain.write x
  | .text s => s
  | .list items => String.intercalate "," (shownItems items)
  | .empty => ""

/-- The texts that the items of a list show. -/
def shownItems : List Literal → List String
  | [] => []
  | item :: items => shown item :: shownItems items

end

/-- The number that a literal shows; a list shows one only as its single item. -/
def figure : Literal → Float
  | .number x => x
  | .text s => Decimal.figure s
  | .list [item] => item.figure
  | .list _ => Decimal.nan
  | .empty => Decimal.nan

/-- The two numbers of a range: the items of a list, or the sides of the first comma of a text. -/
def range? : Literal → Option (Float × Float)
  | .list [low, high] => some (low.figure, high.figure)
  | .text s => (splitOnce? ',' s).map fun (low, high) => (Decimal.figure low, Decimal.figure high)
  | _ => none

/-- A value is equal to a literal. -/
def matched (v : Value) : Literal → Bool
  | .empty => false
  | .list items => v.equalsText (Literal.list items).shown
  | .text s => v.equalsText s
  | .number x =>
    match v with
    | .missing => false
    | v => v.figure == x

/-- A value is equal to an item of a literal: of a list, or of a text with commas. -/
def matchedIn (v : Value) : Literal → Bool
  | .list items => items.any fun item => item.matched v
  | .text s => (split ',' s).any fun piece => v.equalsText (trim piece)
  | .number x => (Literal.number x).matched v
  | .empty => false

/-- The text of a literal occurs in that of a value, without regard to case. -/
def occursIn (v : Value) : Literal → Bool
  | .empty => false
  | literal =>
    match v.shown? with
    | some s => Text.occursIn (lower literal.shown.toList) (lower s.toList)
    | none => false

/-- A value lies in the range of a literal, both ends included. -/
def encloses (v : Value) (literal : Literal) : Bool :=
  match literal.range? with
  | some (low, high) => low ≤ v.figure && v.figure ≤ high
  | none => false

end Literal

/-- The comparison holds between a value and a literal. -/
def Comparison.test (v : Value) (literal : Literal) : Comparison → Bool
  | .equals => literal.matched v
  | .notEquals => !literal.matched v
  | .greaterThan => v.figure > literal.figure
  | .lessThan => v.figure < literal.figure
  | .contains => literal.occursIn v
  | .between => literal.encloses v
  | .inList => literal.matchedIn v
  | .isEmpty => v.isEmpty
  | .isNotEmpty => !v.isEmpty
  | .other _ => false

/-- The condition holds of an account; one that looks at an unknown attribute never does. -/
def Condition.holds (c : Condition) (a : Account) : Bool :=
  match Value.of? a c.subject with
  | some v => c.comparison.test v c.literal
  | none => false

end Dunning
