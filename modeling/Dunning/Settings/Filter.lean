import Dunning.Decimal.Reading
import Dunning.Text.Letter
import Dunning.Text.Pieces

/-!
# Settings/Filter — which log lines are wanted

A filter is a list of directives with commas between them. A directive names a level, a target, a
span with fields, or a target with a level after `=`. A level has to be one that exists; blanks
around a directive count as part of its level. `Filter.check` reports the first directive that is
none.
-/

namespace Dunning

/-- Why a filter is refused. -/
inductive FilterFault where
  | badLevel
  | badDirective
  deriving Repr, DecidableEq

/-- The wording of a fault. -/
def FilterFault.message : FilterFault → String
  | .badLevel =>
    "error parsing level filter: expected one of \"off\", \"error\", \"warn\", \"info\", " ++
      "\"debug\", \"trace\", or a number 0-5"
  | .badDirective => "invalid filter directive"

namespace Filter

open Dunning.Text

/-- The names of the levels. -/
def levels : List String := ["", "error", "warn", "info", "debug", "trace", "off"]

/-- A level: its name in any case, or a number from 0 to 5. -/
def isLevel (cs : List Char) : Bool :=
  levels.contains (lowerAscii (String.ofList cs)) ||
    match Decimal.integer 10 0 5 cs with
    | .ok _ => true
    | .error _ => false

/-- What a character of a directive belongs to. Counts are of characters. -/
inductive Place where
  | start
  | levelOrTarget
  | span
  | field (length : Nat)
  | afterFields
  | target
  | level (offset : Nat)
  deriving Repr, DecidableEq

/-- A character that may open a directive. -/
def opens (c : Char) : Bool :=
  c == '-' || c == ':' || c == '_' || isLetterOrNumber c

/-- The place after a character, the `index`-th of a directive. -/
def Place.next? (place : Place) (index : Nat) (c : Char) : Option Place :=
  match place with
  | .start => if c = '[' then some .span else if opens c then some .levelOrTarget else none
  | .levelOrTarget =>
    if c = '=' then some (.level (index + 1))
    else if c = '[' then some .span
    else some .levelOrTarget
  | .span =>
    if c = ']' then some .target else if c = '\x7b' then some (.field 0) else some .span
  | .field length =>
    if c = '\x7d' then (if length = 0 then none else some .afterFields)
    else some (.field (length + 1))
  | .afterFields => if c = ']' then some .target else none
  | .target => if c = '=' then some (.level (index + 1)) else none
  | .level offset => some (.level offset)

/-- The place after the last character. -/
def Place.last? (place : Place) (index : Nat) : List Char → Option Place
  | [] => some place
  | c :: cs =>
    match place.next? index c with
    | some next => next.last? (index + 1) cs
    | none => none

/-- Reads a directive. -/
def checkDirective (cs : List Char) : Except FilterFault Unit :=
  match Place.last? .start 0 (trimBy isBlank cs) with
  | some .levelOrTarget => .ok ()
  | some .target => .ok ()
  | some (.level offset) => if isLevel (cs.drop offset) then .ok () else .error .badLevel
  | _ => .error .badDirective

/-- Reads a filter. -/
def check (s : String) : Except FilterFault Unit :=
  ((pieces ',' s.toList).filter fun piece => !piece.isEmpty).forM checkDirective

end Filter

end Dunning
