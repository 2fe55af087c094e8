import Dunning.Graph.Basic

/-!
# Graph/Edit — changing a graph

Every operation gives a new graph. One that names a node which does not exist is refused and says
which; where several nodes share an id, the first is meant.
-/

namespace Dunning

/-- Why a change is refused. -/
inductive EditFault where
  | unknownNode (id : String)
  deriving Repr, DecidableEq

/-- The wording of a fault. -/
def EditFault.message : EditFault → String
  | .unknownNode id => "node " ++ id ++ " does not exist"

namespace Graph

/-- The id that a placed node gets for a number. -/
def blockId (n : Nat) : String := "block_" ++ Decimal.natText n

/-- The first number from `n` on whose id is free, among the next `fuel` and the one after them. -/
def freeNumber (g : Graph) : Nat → Nat → Nat
  | 0, n => n
  | fuel + 1, n => if (g.node? (blockId n)).isNone then n else freeNumber g fuel (n + 1)

/-- The id of the next placed node: the first free one beyond the count of nodes. As many tries as
there are nodes are enough. -/
def freshId (g : Graph) : String :=
  blockId (g.freeNumber g.nodes.length (g.nodes.length + 1))

/-- Puts a node at the end. -/
def push (g : Graph) (n : Node) : Graph :=
  ⟨g.nodes ++ [n]⟩

/-- Places a node of the given type; its id is `freshId`. -/
def place (g : Graph) (type : NodeType) (position : Option Position) : Graph :=
  g.push ⟨g.freshId, position, Payload.initial type, []⟩

/-- Changes the first node with this id, if there is one. -/
def modifyFirst (id : String) (f : Node → Node) : List Node → Option (List Node)
  | [] => none
  | n :: nodes =>
    if n.id = id then some (f n :: nodes) else (modifyFirst id f nodes).map (n :: ·)

/-- Changes the first node with this id. -/
def modify (g : Graph) (id : String) (f : Node → Node) : Except EditFault Graph :=
  match modifyFirst id f g.nodes with
  | some nodes => .ok ⟨nodes⟩
  | none => .error (.unknownNode id)

/-- Replaces the payload of a node. -/
def update (g : Graph) (id : String) (payload : Payload) : Except EditFault Graph :=
  g.modify id fun n => { n with payload := payload }

/-- Takes the first node with this id out of a list. -/
def takeFirst (id : String) : List Node → Option (Node × List Node)
  | [] => none
  | n :: nodes =>
    if n.id = id then some (n, nodes)
    else (takeFirst id nodes).map fun (found, rest) => (found, n :: rest)

/-- A node without its connections to an id. -/
def dropTarget (id : String) (n : Node) : Node :=
  { n with connections := n.connections.filter fun c => c.target != id }

/-- Removes a node, and every connection to its id. -/
def remove (g : Graph) (id : String) : Except EditFault (Node × Graph) :=
  match takeFirst id g.nodes with
  | some (n, rest) => .ok (n, ⟨rest.map (dropTarget id)⟩)
  | none => .error (.unknownNode id)

/-- Connects two nodes. A connection to the same target is replaced, and the new one comes last. -/
def connect (g : Graph) (source target : String) (label : Option String) :
    Except EditFault Graph :=
  match g.node? target with
  | none => .error (.unknownNode target)
  | some _ =>
    g.modify source fun n =>
      { n with connections := (dropTarget target n).connections ++ [⟨target, label⟩] }

end Graph

end Dunning
