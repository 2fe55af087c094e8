import Dunning.Json.Parser
import Dunning.Json.Record
import Dunning.Rule.Basic

/-!
# Rule/Document — rules in documents

A document lists rules. A threshold names its relation in the member `op`, which may stand anywhere
among its members; the others are buffered until the relation is known.
-/

namespace Dunning

open Json

namespace Metric

/-- The name of a figure. -/
def label : Metric → String
  | .balance => "outstanding_balance"
  | .daysInArrears => "days_in_arrears"

/-- The figures by name. -/
def choices : List (String × Metric) :=
  [.balance, .daysInArrears].map fun m => (m.label, m)

end Metric

namespace Relation

/-- The name of a relation. -/
def label : Relation → String
  | .greaterThan => "greater_than"
  | .atMost => "at_most"

/-- What a threshold with this relation calls itself. -/
def title : Relation → String
  | .greaterThan => "struct variant Threshold::GreaterThan"
  | .atMost => "struct variant Threshold::AtMost"

/-- The relations by name. -/
def choices : List (String × Relation) :=
  [.greaterThan, .atMost].map fun r => (r.label, r)

/-- The name of a relation, as a tag. -/
def tag : Shape Relation :=
  Shape.parsed "variant identifier" (Shape.lookUp choices)

end Relation

namespace Threshold

/-- A threshold without its relation. -/
def record (relation : Relation) : Record Threshold where
  title := relation.title
  blank := ⟨relation, .balance, 0⟩
  fields :=
    [ .needed "metric" (Shape.oneOf Metric.choices) fun v t => { t with metric := v },
      .needed "value" Shape.number fun v t => { t with value := v } ]

/-- The name of the member that holds the tag. -/
def tagName : String := "op"

/-- Reads the tag out of members, one having been found, and buffers the others. -/
def splitTag (source : Source) (tag : Option Relation) :
    List (Key × Tree) → Except JsonFault (Option Relation × List (Key × Tree))
  | [] => .ok (tag, [])
  | (.misplaced, _) :: _ => .error (.malformed .keyNotString)
  | (.unreadable fault, _) :: _ => .error (.malformed fault)
  | (.name key, item) :: members =>
    if key = tagName then
      match tag with
      | some _ => Shape.mismatch (.duplicateField tagName)
      | none => do
        let relation ← Relation.tag source item
        splitTag source (some relation) members
    else do
      let _ ← Shape.lift (load item)
      let (tag, others) ← splitTag source tag members
      .ok (tag, (.name key, item) :: others)

/-- How a threshold is read. -/
def shape : Shape Threshold := fun source t =>
  match t with
  | .object members stop => do
    let (tag, others) ← splitTag source none members
    Shape.lift (stop.finish ())
    match tag with
    | none => Shape.mismatch (.missingField tagName)
    | some relation => (record relation).read .buffer (.object others .closed)
  | .array [] stop => do
    Shape.lift (stop.finish ())
    Shape.mismatch (.missingField tagName)
  | .array (first :: others) stop => do
    let relation ← Relation.tag source first
    let _ ← Shape.lift (loadItems others)
    Shape.lift (stop.finish ())
    (record relation).read .buffer (.array others .closed)
  | .deep (.object _ _) | .deep (.array _ _) => .error (.malformed .tooDeep)
  | t => Shape.unwanted "internally tagged enum Threshold" t

/-- Writes a threshold. -/
def toJson (t : Threshold) : Json :=
  .object [("op", .string t.relation.label), ("metric", .string t.metric.label),
    ("value", .ofFloat t.value)]

end Threshold

namespace Rule

/-- A count of eight bits. -/
def priorityShape : Shape UInt8 := fun source t =>
  (Shape.whole 0 255 "u8" source t).map fun n => UInt8.ofNat n.toNat

/-- How a rule is read. -/
def record : Record Rule where
  title := "struct Rule"
  blank := ⟨"", "", [], 0, ""⟩
  fields :=
    [ .needed "id" Shape.string fun v r => { r with id := v },
      .needed "name" Shape.string fun v r => { r with name := v },
      .defaulted "conditions" (Shape.list Threshold.shape) fun v r => { r with conditions := v },
      .needed "priority" priorityShape fun v r => { r with priority := v },
      .needed "next_action" Shape.string fun v r => { r with nextAction := v } ]

/-- Writes a rule. -/
def toJson (r : Rule) : Json :=
  .object [("id", .string r.id), ("name", .string r.name),
    ("conditions", .array (r.conditions.map Threshold.toJson)),
    ("priority", .integer r.priority.toNat), ("next_action", .string r.nextAction)]

end Rule

namespace RuleSet

/-- Reads a value as rules. -/
def ofJson (j : Json) : Except JsonFault RuleSet :=
  (Shape.list Rule.record.read .value j.toTree).map RuleSet.mk

/-- Reads the text of a document as rules. -/
def ofDocument (bytes : List UInt8) : Except JsonFault RuleSet := do
  let d := Document.parse (Text.Utf8.glyphs bytes)
  let rules ← Shape.list Rule.record.read .text d.tree
  d.finish ⟨rules⟩

/-- Writes rules. -/
def toJson (rs : RuleSet) : Json :=
  .array (rs.rules.map Rule.toJson)

end RuleSet

/-- Writes a classification. -/
def Classification.toJson (c : Classification) : Json :=
  .object [("rule_id", .ofOption .string c.ruleId), ("priority", .integer c.priority.toNat),
    ("next_action", .string c.nextAction), ("delinquency_state", c.delinquency.toJson)]

end Dunning
