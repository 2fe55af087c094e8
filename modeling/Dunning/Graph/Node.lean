import Dunning.Condition.Basic
import Dunning.Text.Case

/-!
# Graph/Node — the nodes of a strategy graph

A node has a payload, which says what it does, and connections to other nodes. A condition chooses
between its connections; every other payload ends a walk. A node of unknown type keeps its data, so
that documents of newer authoring tools lose nothing.
-/

namespace Dunning

/-- A place on the authoring canvas. -/
structure Position where
  x : Float
  y : Float
  deriving Repr, DecidableEq

/-- A connection to a node, with a label that may name a branch. -/
structure Connection where
  target : String
  label : Option String
  deriving Repr, DecidableEq

namespace Connection

/-- The branch that a label names. -/
def branchOf (label : String) : Option Bool :=
  let name := Text.lowerAscii (Text.trim label)
  if name = "true" ∨ name = "yes" then some true
  else if name = "false" ∨ name = "no" then some false
  else none

/-- The branch that a connection stands for, if its label names one. -/
def branch? (c : Connection) : Option Bool :=
  c.label.bind branchOf

/-- A connection to a node, which may stand for a branch. -/
def leading (target : String) (branch : Option Bool) : Connection :=
  ⟨target, branch.map fun b => if b then "true" else "false"⟩

end Connection

/-- How urgent an action is. -/
inductive Urgency where
  | low
  | medium
  | high
  | unspecified
  deriving Repr, DecidableEq

namespace Urgency

/-- The text of an urgency. -/
def text : Urgency → String
  | .low => "low"
  | .medium => "medium"
  | .high => "high"
  | .unspecified => ""

/-- The urgency a text names, blanks around it aside. -/
def ofText (s : String) : Urgency :=
  let name := Text.trim s
  if name = "low" then .low
  else if name = "medium" then .medium
  else if name = "high" then .high
  else .unspecified

/-- The priority of an action: greater is more urgent. -/
def score : Urgency → Int32
  | .high => 8
  | .medium => 5
  | .low | .unspecified => 2

end Urgency

/-- When an action is due. -/
structure Scheduling where
  delay : Float
  unit : String
  businessHoursOnly : Bool
  deriving Repr, DecidableEq

/-- Something to be done. -/
structure Action where
  title : String
  channel : String
  urgency : Urgency
  template : Option String
  scheduling : Option Scheduling
  deriving Repr, DecidableEq

/-- A wait. -/
structure Timer where
  title : String
  duration : Float
  unit : String
  businessHoursOnly : Bool
  deriving Repr, DecidableEq

/-- A hand-over to someone else. -/
structure Escalation where
  title : String
  receiver : String
  threshold : Float
  reason : String
  deriving Repr, DecidableEq

/-- The end of a process. -/
structure Ending where
  title : String
  outcome : String
  reason : String
  deriving Repr, DecidableEq

/-- The types of node that can be placed. -/
inductive NodeType where
  | condition
  | action
  | timer
  | escalation
  | ending
  deriving Repr, DecidableEq

namespace NodeType

/-- The name of a type. -/
def label : NodeType → String
  | .condition => "condition"
  | .action => "action"
  | .timer => "timer"
  | .escalation => "escalation"
  | .ending => "end"

/-- The types by name. -/
def choices : List (String × NodeType) :=
  [.condition, .action, .timer, .escalation, .ending].map fun t => (t.label, t)

end NodeType

/-- What a node does. -/
inductive Payload where
  | condition (c : Condition)
  | action (a : Action)
  | timer (t : Timer)
  | escalation (e : Escalation)
  | ending (e : Ending)
  | unknown (type : String) (data : Json)
  deriving Repr, DecidableEq

namespace Payload

/-- The payload that a newly placed node starts with. -/
def initial : NodeType → Payload
  | .condition => .condition ⟨"New Condition", .band, .equals, .text ""⟩
  | .action => .action ⟨"New Action", "phone", .medium, some "", none⟩
  | .timer => .timer ⟨"Wait Timer", 1, "days", false⟩
  | .escalation => .escalation ⟨"Escalate", "manager", 3, ""⟩
  | .ending => .ending ⟨"End Process", "closed", ""⟩

/-- The name of the type. -/
def typeName : Payload → String
  | .condition _ => NodeType.condition.label
  | .action _ => NodeType.action.label
  | .timer _ => NodeType.timer.label
  | .escalation _ => NodeType.escalation.label
  | .ending _ => NodeType.ending.label
  | .unknown type _ => type

end Payload

/-- A node with its outgoing connections. -/
structure Node where
  id : String
  position : Option Position
  payload : Payload
  connections : List Connection
  deriving Repr, DecidableEq

end Dunning
