import Dunning.Graph.Node

/-!
# Graph/Basic — strategy graphs

A graph is a list of nodes. Several nodes may share an id: a look-up then finds the first. The entry
is the first node that no connection points at.
-/

namespace Dunning

/-- A strategy graph. -/
structure Graph where
  nodes : List Node
  deriving Repr, DecidableEq

namespace Graph

/-- The graph without nodes. -/
def empty : Graph := ⟨[]⟩

/-- The first node with this id. -/
def node? (g : Graph) (id : String) : Option Node :=
  g.nodes.find? fun n => n.id == id

/-- The ids of the nodes. -/
def ids (g : Graph) : List String :=
  g.nodes.map Node.id

/-- The ids that connections point at. -/
def targets (g : Graph) : List String :=
  g.nodes.flatMap fun n => n.connections.map Connection.target

/-- The nodes that no connection points at. -/
def entries (g : Graph) : List Node :=
  let targets := g.targets
  g.nodes.filter fun n => !targets.contains n.id

/-- Where a walk starts. -/
def entry? (g : Graph) : Option Node :=
  g.entries.head?

end Graph

end Dunning
