import Dunning.Condition.Holds
import Dunning.Graph.Basic

/-!
# Graph/Walk — walking a graph for an account

A walk starts at the entry and follows from each condition the branch that the account takes. It
ends at the first node that is no condition, at a condition without a node to go to, or where it
comes to an id for the second time. Since no id is visited twice, as many steps as the graph has
nodes are enough.
-/

namespace Dunning

/-- What a walk recommends. Greater priorities are more urgent. -/
structure Outcome where
  action : String
  priority : Int32
  deriving Repr, DecidableEq

namespace Outcome

/-- A recommendation where the graph has none. -/
def fallback (action : String) : Outcome := ⟨action, 1⟩

/-- The graph has no entry. -/
def noStrategy : Outcome := fallback "No strategy defined"

/-- A condition leads nowhere. -/
def noNext : Outcome := fallback "No next action"

/-- The walk runs in a circle. -/
def cycle : Outcome := fallback "Cycle detected"

/-- The walk ends at a node of unknown type. -/
def unknown : Outcome := fallback "Unknown action"

/-- What a node recommends at which a walk ends. -/
def ofPayload : Payload → Outcome
  | .action a => ⟨a.channel ++ " - " ++ a.title, a.urgency.score⟩
  | .timer t => ⟨"Wait " ++ Decimal.Layout.plain.write t.duration ++ " " ++ t.unit, 3⟩
  | .escalation e => ⟨"Escalate to " ++ e.receiver, 9⟩
  | .ending e => ⟨"End: " ++ e.outcome, 1⟩
  | .unknown _ _ => unknown
  | .condition _ => noNext

/-- The members of a written outcome. -/
def toJson (o : Outcome) : Json :=
  .object [("action", .string o.action), ("priority", .integer o.priority.toInt)]

end Outcome

namespace Graph

/-- The position of the connection that stands for a branch without a label. -/
def branchIndex (branch : Bool) : Nat := if branch then 0 else 1

/-- The connection for a branch: the first labelled with it, else the one at its position unless a
label names a branch there. -/
def connectionFor (connections : List Connection) (branch : Bool) : Option Connection :=
  match connections.find? fun c => c.branch? == some branch with
  | some c => some c
  | none => connections[branchIndex branch]?.filter fun c => c.branch? == none

/-- The node that a branch leads to. -/
def next? (g : Graph) (n : Node) (branch : Bool) : Option Node :=
  (connectionFor n.connections branch).bind fun c => g.node? c.target

/-- How a walk ends. -/
inductive Arrival where
  /-- At a node that is no condition. -/
  | terminal (node : Node)
  /-- At a condition that leads nowhere. -/
  | stranded (node : Node)
  /-- Before a node whose id has been visited. -/
  | cycle (node : Node)
  deriving Repr, DecidableEq

/-- What an end recommends. -/
def Arrival.outcome : Arrival → Outcome
  | .terminal node => .ofPayload node.payload
  | .stranded _ => .noNext
  | .cycle _ => .cycle

/-- The nodes visited on a walk, and its end. -/
structure Walk where
  trail : List Node
  arrival : Arrival
  deriving Repr, DecidableEq

/-- Puts a node in front of a walk. -/
def Walk.after (n : Node) (w : Walk) : Walk :=
  { w with trail := n :: w.trail }

/-- Walks on from a node, some ids having been visited. -/
def walkFrom (g : Graph) (a : Account) : Nat → List String → Node → Walk
  | 0, _, n => ⟨[], .cycle n⟩
  | fuel + 1, visited, n =>
    if visited.contains n.id then ⟨[], .cycle n⟩
    else match n.payload with
      | .condition c =>
        match g.next? n (c.holds a) with
        | some next => (walkFrom g a fuel (n.id :: visited) next).after n
        | none => ⟨[n], .stranded n⟩
      | _ => ⟨[n], .terminal n⟩

/-- The walk for an account, unless there is no entry. -/
def walk? (g : Graph) (a : Account) : Option Walk :=
  g.entry?.map (g.walkFrom a g.nodes.length [])

/-- What the graph recommends for an account. -/
def outcome (g : Graph) (a : Account) : Outcome :=
  match g.walk? a with
  | some w => w.arrival.outcome
  | none => .noStrategy

/-- An outcome as an evaluation. -/
def evaluate (g : Graph) (a : Account) : Evaluation :=
  let o := g.outcome a
  ⟨o.priority, o.action, Delinquency.ofDays a.daysInArrears, .higherIsUrgent⟩

end Graph

end Dunning
