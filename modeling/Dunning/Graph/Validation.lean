import Dunning.Graph.Basic

/-!
# Graph/Validation — what is wrong with a graph

Issues keep no graph from being walked; they tell its author what will not work. Ids and connections
are looked at first, then a search from the entry finds circles and nodes out of reach. In the
search an id stands for its last node.
-/

namespace Dunning

/-- Something wrong with a graph. -/
inductive Issue where
  | duplicateId (node : String)
  | danglingConnection (source target : String)
  | noEntry
  | severalEntries (nodes : List String)
  | branchCount (node : String) (connections : Nat)
  | unknownType (node : String) (type : String)
  | unreachable (node : String)
  | cycle (node : String)
  deriving Repr, DecidableEq

namespace Issue

/-- An issue in a sentence. -/
def summary : Issue → String
  | .duplicateId node => "node id " ++ node ++ " is used more than once"
  | .danglingConnection source target => source ++ " connects to missing node " ++ target
  | .noEntry => "no entry node: every node has an incoming connection"
  | .severalEntries nodes =>
    "multiple entry nodes (" ++ String.intercalate ", " nodes ++ "); evaluation starts at " ++
      nodes.head?.getD ""
  | .branchCount node connections =>
    "condition " ++ node ++ " has " ++ Decimal.natText connections ++ " connection(s), expected 2"
  | .unknownType node type => "node " ++ node ++ " has unknown type '" ++ type ++ "'"
  | .unreachable node => "node " ++ node ++ " is unreachable from the entry"
  | .cycle node => "cycle detected through node " ++ node

/-- The members of a written issue. -/
def toJson : Issue → Json
  | .duplicateId node => .object [("issue", .string "duplicate_node_id"), ("node", .string node)]
  | .danglingConnection source target =>
    .object [("issue", .string "dangling_connection"), ("from", .string source),
      ("target", .string target)]
  | .noEntry => .object [("issue", .string "no_entry_node")]
  | .severalEntries nodes =>
    .object [("issue", .string "multiple_entry_nodes"), ("nodes", .array (nodes.map .string))]
  | .branchCount node connections =>
    .object [("issue", .string "condition_branches"), ("node", .string node),
      ("connections", .integer connections)]
  | .unknownType node type =>
    .object [("issue", .string "unknown_node_type"), ("node", .string node),
      ("node_type", .string type)]
  | .unreachable node => .object [("issue", .string "unreachable"), ("node", .string node)]
  | .cycle node => .object [("issue", .string "cycle"), ("node", .string node)]

end Issue

namespace Graph

/-! ## Ids and connections -/

/-- An issue for every node whose id an earlier node has. -/
def duplicateIssues : List String → List Node → List Issue
  | _, [] => []
  | seen, n :: nodes =>
    if seen.contains n.id then .duplicateId n.id :: duplicateIssues seen nodes
    else duplicateIssues (n.id :: seen) nodes

/-- An issue for every connection of a node that points at no node. -/
def danglingIssues (ids : List String) (n : Node) : List Issue :=
  (n.connections.filter fun c => !ids.contains c.target).map fun c =>
    .danglingConnection n.id c.target

/-- A condition with other than two connections, or a node of unknown type. -/
def payloadIssues (n : Node) : List Issue :=
  match n.payload with
  | .condition _ =>
    if n.connections.length = 2 then [] else [.branchCount n.id n.connections.length]
  | .unknown type _ => [.unknownType n.id type]
  | _ => []

/-! ## The search -/

/-- The last node with this id. -/
def lastNode? (g : Graph) (id : String) : Option Node :=
  g.nodes.reverse.find? fun n => n.id == id

/-- What a search has found: the ids visited, and those that close a circle, each the last first. -/
structure Search where
  visited : List String
  cycles : List String
  deriving Repr, DecidableEq

/-- Searches what lies below a node. `path` holds the ids between the entry and the node. -/
def explore (g : Graph) : Nat → List String → Node → Search → Search
  | 0, _, _, found => found
  | fuel + 1, path, n, found =>
    let path := n.id :: path
    n.connections.foldl
      (fun found c =>
        if path.contains c.target then { found with cycles := c.target :: found.cycles }
        else if found.visited.contains c.target then found
        else match g.lastNode? c.target with
          | some next => explore g fuel path next found
          | none => found)
      { found with visited := n.id :: found.visited }

/-- Searches the graph from a node. No path is longer than the graph has nodes. -/
def search (g : Graph) (entry : Node) : Search :=
  g.explore g.nodes.length [] entry ⟨[], []⟩

/-- What is wrong with the ways from an entry. -/
def searchIssues (g : Graph) (entry : Node) : List Issue :=
  let found := g.search entry
  found.cycles.reverse.map Issue.cycle ++
    (g.nodes.filter fun n => !found.visited.contains n.id).map fun n => .unreachable n.id

/-- What is wrong with the entries and the ways from the first. -/
def entryIssues (g : Graph) : List Issue :=
  match g.entries with
  | [] => if g.nodes.isEmpty then [] else [.noEntry]
  | entry :: others =>
    (if others.isEmpty then [] else [.severalEntries ((entry :: others).map Node.id)]) ++
      g.searchIssues entry

/-- Everything that is wrong with a graph. -/
def issues (g : Graph) : List Issue :=
  let ids := g.ids
  duplicateIssues [] g.nodes ++
    (g.nodes.flatMap fun n => danglingIssues ids n ++ payloadIssues n) ++
    g.entryIssues

end Graph

end Dunning
