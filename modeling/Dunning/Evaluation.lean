import Dunning.Delinquency

/-!
# Evaluation — what a strategy recommends for an account

Rules give the most urgent accounts the priority 1, strategy graphs give them the greatest number.
An evaluation carries its `PriorityScale`, so that a queue with both kinds can be put in order.
-/

namespace Dunning

/-- The direction in which a priority grows more urgent. -/
inductive PriorityScale where
  | lowerIsUrgent
  | higherIsUrgent
  deriving Repr, DecidableEq

namespace PriorityScale

/-- The name of a scale. -/
def label : PriorityScale → String
  | .lowerIsUrgent => "lower_is_urgent"
  | .higherIsUrgent => "higher_is_urgent"

/-- The scales by name. -/
def choices : List (String × PriorityScale) :=
  [.lowerIsUrgent, .higherIsUrgent].map fun s => (s.label, s)

/-- A scale is written by its name. -/
def toJson (s : PriorityScale) : Json := .string s.label

end PriorityScale

/-- What a strategy recommends for an account. -/
structure Evaluation where
  priority : Int32
  nextAction : String
  delinquency : Delinquency
  scale : PriorityScale
  deriving Repr, DecidableEq

/-- The members of a written evaluation. -/
def Evaluation.toJson (e : Evaluation) : Json :=
  .object [("priority", .integer e.priority.toInt), ("next_action", .string e.nextAction),
    ("delinquency_state", e.delinquency.toJson), ("priority_scale", e.scale.toJson)]

end Dunning
