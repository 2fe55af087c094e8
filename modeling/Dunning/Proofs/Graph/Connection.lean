import Mathlib.Data.Set.Finite.Basic
import Mathlib.Order.WellFounded
import Dunning.Proofs.Graph.Entry

/-!
# Proofs/Graph/Connection — the connections as a relation between ids

`Graph.Connects` relates the id of a node to the targets of its connections, whether there are nodes
at these or not.  Followed backwards the relation never leaves the ids of the graph, which are
finitely many: the way back from an id ends at one that no connection points at, or else runs in a
circle (`Graph.exists_origin`).
-/

open Relation

namespace Dunning

namespace Graph

variable {g : Graph} {i j : String}

/-- A connection leads from one id to the other. -/
def Connects (g : Graph) (i j : String) : Prop :=
  ∃ n ∈ g.nodes, n.id = i ∧ ∃ c ∈ n.connections, c.target = j

theorem targeted_iff : g.Targeted j ↔ ∃ i, g.Connects i j := by
  constructor
  · rintro ⟨n, hn, hc⟩
    exact ⟨n.id, n, hn, rfl, hc⟩
  · rintro ⟨i, n, hn, -, hc⟩
    exact ⟨n, hn, hc⟩

theorem Connects.source_mem (h : g.Connects i j) : i ∈ g.ids := by
  obtain ⟨n, hn, rfl, -⟩ := h
  exact id_mem_ids hn

/-- **Every node hangs below an id that no connection points at, or below a circle.** -/
theorem exists_origin (hi : i ∈ g.ids) :
    ∃ k ∈ g.ids, ReflTransGen g.Connects k i ∧ (¬ g.Targeted k ∨ TransGen g.Connects k k) := by
  by_contra hno
  push Not at hno
  -- the ids above `i`, each below the one that a connection leads from
  let Above := {k : String // k ∈ g.ids ∧ ReflTransGen g.Connects k i}
  let rel : Above → Above → Prop := fun k l => TransGen g.Connects k.1 l.1
  have hfinite : Finite Above :=
    Set.Finite.to_subtype ((List.finite_toSet g.ids).subset fun k hk => hk.1)
  have htrans : IsTrans Above rel := ⟨fun _ _ _ => TransGen.trans⟩
  have hirrefl : Std.Irrefl rel := ⟨fun k => (hno k.1 k.2.1 k.2.2).2⟩
  obtain ⟨k, -, hmin⟩ :=
    (Finite.wellFounded_of_trans_of_irrefl rel).has_min Set.univ ⟨⟨i, hi, .refl⟩, trivial⟩
  obtain ⟨l, hl⟩ := targeted_iff.1 (hno k.1 k.2.1 k.2.2).1
  exact hmin ⟨l, hl.source_mem, .head hl k.2.2⟩ trivial (.single hl)

end Graph

end Dunning
