import Dunning.Proofs.Graph.Editing

/-!
# Proofs/Graph/Numbering — the number of a placed node

The numbers are tried from the count of nodes on, for the nodes may have any ids:

    nodes    block_3   block_4                 two nodes
    tried    block_3   block_4   block_5 ✓

There are as many ids as nodes, and different numbers have different ids, so one try more than there
are nodes is enough (`Graph.finds_freeNumber`).  The new node comes last under the first id that is
free (`Graph.placed_node_numbered`).
-/

namespace Dunning

namespace Graph

/-- The id of a placed node joins those that there are, so it repeats none of them. -/
theorem ids_place_nodup_iff (g : Graph) (type : NodeType) (position : Option Position) :
    (g.place type position).ids.Nodup ↔ g.ids.Nodup := by
  rw [place, ids_push, ← List.concat_eq_append, List.nodup_concat]
  exact and_iff_right g.freshId_notMem

/-- **A placed node gets the least free number beyond the count of nodes.**  The loop that looks for
it ends, whatever ids the nodes have, and after one try more than there are nodes at the latest.
The node has the payload that its type starts with, the position it is given and no connections; it
comes last, and the others stay as they are, so ids are distinct just when they were. -/
theorem placed_node_numbered (g : Graph) (type : NodeType) (position : Option Position) :
    ∃ k, Text.Finds (fun j => (g.node? (blockId j)).isNone) (g.nodes.length + 1) k ∧
      IsLeast {j | g.nodes.length + 1 ≤ j ∧ ∀ n ∈ g.nodes, n.id ≠ "block_" ++ Decimal.natText j} k ∧
      k ≤ 2 * g.nodes.length + 1 ∧
      g.freshId = "block_" ++ Decimal.natText k ∧
      (g.place type position).nodes =
        g.nodes ++ [⟨"block_" ++ Decimal.natText k, position, .initial type, []⟩] ∧
      ((g.place type position).ids.Nodup ↔ g.ids.Nodup) := by
  have hfree : ∀ j, (g.node? (blockId j)).isNone ↔ ∀ n ∈ g.nodes, n.id ≠ blockId j := fun j =>
    node?_isNone_iff.trans notMem_ids_iff
  have hleast := g.isLeast_freeNumber
  simp only [hfree] at hleast
  obtain ⟨hfinds, hreach⟩ := g.finds_freeNumber
  exact ⟨_, hfinds, hleast, by omega, rfl, rfl, g.ids_place_nodup_iff type position⟩

/-- Two nodes can take all the numbers that are tried first. -/
example :
    freshId ⟨[⟨"block_3", none, .initial .action, []⟩, ⟨"block_4", none, .initial .action, []⟩]⟩ =
      "block_5" := by
  decide +kernel

end Graph

end Dunning
