import Dunning.Graph.Basic
import Dunning.Json.Parser

/-!
# Graph/Document — graphs in documents

A document is a list of nodes, or an object that holds one under `nodes` or `blocks`. Payloads are
read leniently, as authoring forms leave them; what is strict in them is reported with the id of the
node. `Graph.toJson` writes what reading gives back.
-/

namespace Dunning

open Json

/-- How a place on the canvas is read. -/
def Position.record : Record Position where
  title := "struct Position"
  blank := ⟨0, 0⟩
  fields :=
    [ .defaulted "x" Shape.lenientNumber fun v p => { p with x := v },
      .defaulted "y" Shape.lenientNumber fun v p => { p with y := v } ]

/-- Writes a place on the canvas. -/
def Position.toJson (p : Position) : Json :=
  .object [("x", .ofFloat p.x), ("y", .ofFloat p.y)]

/-- How a connection is read. -/
def Connection.record : Record Connection where
  title := "struct Connection"
  blank := ⟨"", none⟩
  fields :=
    [ .needed "targetId" Shape.string fun v c => { c with target := v },
      .defaulted "label" (Shape.optional Shape.string) fun v c => { c with label := v } ]

/-- Writes a connection. -/
def Connection.toJson (c : Connection) : Json :=
  .object (("targetId", .string c.target) ::
    match c.label with
    | some label => [("label", .string label)]
    | none => [])

/-! ## Payloads -/

/-- How a schedule is read. -/
def Scheduling.record : Record Scheduling where
  title := "struct ActionScheduling"
  blank := ⟨0, "", false⟩
  fields :=
    [ .defaulted "delay" Shape.lenientNumber fun v s => { s with delay := v },
      .defaulted "unit" Shape.lenientText fun v s => { s with unit := v },
      .defaulted "businessHoursOnly" Shape.lenientFlag fun v s =>
        { s with businessHoursOnly := v } ]

/-- Writes a schedule. -/
def Scheduling.toJson (s : Scheduling) : Json :=
  .object [("delay", .ofFloat s.delay), ("unit", .string s.unit),
    ("businessHoursOnly", .bool s.businessHoursOnly)]

/-- How an action is read. -/
def Action.record : Record Action where
  title := "struct ActionData"
  blank := ⟨"", "", .unspecified, none, none⟩
  fields :=
    [ .defaulted "title" Shape.lenientText fun v a => { a with title := v },
      .defaulted "actionType" Shape.lenientText fun v a => { a with channel := v },
      .defaulted "priority" Shape.lenientText fun v a => { a with urgency := .ofText v },
      .defaulted "template" (Shape.optional Shape.string) fun v a => { a with template := v },
      .defaulted "scheduling" (Shape.optional Scheduling.record.read) fun v a =>
        { a with scheduling := v } ]

/-- Writes an action. -/
def Action.toJson (a : Action) : Json :=
  .object ([("title", .string a.title), ("actionType", .string a.channel),
      ("priority", .string a.urgency.text)] ++
    (match a.template with
      | some template => [("template", .string template)]
      | none => []) ++
    (match a.scheduling with
      | some scheduling => [("scheduling", scheduling.toJson)]
      | none => []))

/-- How a timer is read. -/
def Timer.record : Record Timer where
  title := "struct TimerData"
  blank := ⟨"", 0, "", false⟩
  fields :=
    [ .defaulted "title" Shape.lenientText fun v t => { t with title := v },
      .defaulted "duration" Shape.lenientNumber fun v t => { t with duration := v },
      .defaulted "unit" Shape.lenientText fun v t => { t with unit := v },
      .defaulted "businessHoursOnly" Shape.lenientFlag fun v t =>
        { t with businessHoursOnly := v } ]

/-- Writes a timer. -/
def Timer.toJson (t : Timer) : Json :=
  .object [("title", .string t.title), ("duration", .ofFloat t.duration),
    ("unit", .string t.unit), ("businessHoursOnly", .bool t.businessHoursOnly)]

/-- How an escalation is read. -/
def Escalation.record : Record Escalation where
  title := "struct EscalationData"
  blank := ⟨"", "", 0, ""⟩
  fields :=
    [ .defaulted "title" Shape.lenientText fun v e => { e with title := v },
      .defaulted "escalationType" Shape.lenientText fun v e => { e with receiver := v },
      .defaulted "threshold" Shape.lenientNumber fun v e => { e with threshold := v },
      .defaulted "reason" Shape.lenientText fun v e => { e with reason := v } ]

/-- Writes an escalation. -/
def Escalation.toJson (e : Escalation) : Json :=
  .object [("title", .string e.title), ("escalationType", .string e.receiver),
    ("threshold", .ofFloat e.threshold), ("reason", .string e.reason)]

/-- How the end of a process is read. -/
def Ending.record : Record Ending where
  title := "struct EndData"
  blank := ⟨"", "", ""⟩
  fields :=
    [ .defaulted "title" Shape.lenientText fun v e => { e with title := v },
      .defaulted "outcome" Shape.lenientText fun v e => { e with outcome := v },
      .defaulted "reason" Shape.lenientText fun v e => { e with reason := v } ]

/-- Writes the end of a process. -/
def Ending.toJson (e : Ending) : Json :=
  .object [("title", .string e.title), ("outcome", .string e.outcome),
    ("reason", .string e.reason)]

namespace Payload

/-- Reads data as a record; `null` is the blank one. -/
def readAs {σ : Type} (r : Record σ) (data : Json) : Except JsonFault σ :=
  match data with
  | .null => .ok r.blank
  | data => r.read .value data.toTree

/-- Reads the data of a node of the given type. -/
def ofData (type : String) (data : Json) : Except JsonFault Payload :=
  match NodeType.choices.lookup type with
  | some .condition => (readAs Condition.record data).map .condition
  | some .action => (readAs Action.record data).map .action
  | some .timer => (readAs Timer.record data).map .timer
  | some .escalation => (readAs Escalation.record data).map .escalation
  | some .ending => (readAs Ending.record data).map .ending
  | none => .ok (.unknown type data)

/-- Writes the data of a node. -/
def toJson : Payload → Json
  | .condition c => c.toJson
  | .action a => a.toJson
  | .timer t => t.toJson
  | .escalation e => e.toJson
  | .ending e => e.toJson
  | .unknown _ data => data

end Payload

/-! ## Nodes and graphs -/

namespace Node

/-- A node whose data has not been read yet. -/
structure Shell where
  id : String
  type : String
  position : Option Position
  data : Json
  connections : List Connection
  deriving Repr, DecidableEq

/-- How the shell of a node is read. -/
def Shell.record : Record Shell where
  title := "struct RawNode"
  blank := ⟨"", "", none, .null, []⟩
  fields :=
    [ .needed "id" Shape.string fun v s => { s with id := v },
      .needed "type" Shape.string fun v s => { s with type := v },
      .defaulted "position" (Shape.optional Position.record.read) fun v s =>
        { s with position := v },
      .defaulted "data" Shape.any fun v s => { s with data := v },
      .defaulted "connections" (Shape.list Connection.record.read) fun v s =>
        { s with connections := v } ]

/-- A fault in the data of a node, reported with its id. -/
def named (id : String) : JsonFault → JsonFault
  | .mismatch cause => .mismatch (.inNode id cause)
  | .malformed cause => .malformed cause

/-- Reads the data of a shell. -/
def ofShell (s : Shell) : Except JsonFault Node := do
  let payload ← (Payload.ofData s.type s.data).mapError (named s.id)
  .ok ⟨s.id, s.position, payload, s.connections⟩

/-- How a node is read. -/
def shape : Shape Node := fun source t => do
  ofShell (← Shell.record.read source t)

/-- Writes a node. -/
def toJson (n : Node) : Json :=
  .object ([("id", .string n.id), ("type", .string n.payload.typeName)] ++
    (match n.position with
      | some position => [("position", position.toJson)]
      | none => []) ++
    [("data", n.payload.toJson), ("connections", .array (n.connections.map Connection.toJson))])

end Node

namespace Graph

/-- Reads a list of nodes. -/
def ofNodes (j : Json) : Except JsonFault Graph :=
  (Shape.list Node.shape .value j.toTree).map Graph.mk

/-- Reads a value as a graph. -/
def ofJson (j : Json) : Except JsonFault Graph :=
  match j with
  | .array _ => ofNodes j
  | .object _ =>
    match j.get? "nodes" with
    | some nodes => ofNodes nodes
    | none =>
      match j.get? "blocks" with
      | some nodes => ofNodes nodes
      | none => Shape.mismatch (.missingField "nodes")
  | _ => Shape.mismatch .notADocument

/-- How a graph is read as part of something else. -/
def shape : Shape Graph := fun source t => do
  ofJson (← Shape.any source t)

/-- Reads the text of a document as a graph. -/
def ofDocument (bytes : List UInt8) : Except JsonFault Graph := do
  let d := Document.parse (Text.Utf8.glyphs bytes)
  let g ← shape .text d.tree
  d.finish g

/-- Writes a graph. -/
def toJson (g : Graph) : Json :=
  .object [("nodes", .array (g.nodes.map Node.toJson))]

end Graph

end Dunning
