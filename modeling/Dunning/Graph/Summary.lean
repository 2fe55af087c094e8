import Dunning.Graph.Validation

/-!
# Graph/Summary — what is wrong with a graph, for a reader
-/

namespace Dunning.Graph

/-- Counts the nodes, names the entry, and lists the issues. -/
def summary (g : Graph) : String :=
  let entry := (g.entry?.map Node.id).getD "none"
  let head := Decimal.natText g.nodes.length ++ " node(s), entry: " ++ entry ++ "\n"
  match g.issues with
  | [] => head ++ "no issues found\n"
  | issues =>
    head ++ String.join (issues.map fun issue => "- " ++ issue.summary ++ "\n") ++
      Decimal.natText issues.length ++ " issue(s)\n"

end Dunning.Graph
