import Dunning.Proofs.Graph.Connection
import Dunning.Proofs.Graph.Course

/-!
# Proofs/Graph/Origin — what a node hangs below

Following connections backwards from a node one comes to an entry, or else round in a circle:

    entry ─▸ ⋯ ─▸ n        or        k ─▸ ⋯ ─▸ k ─▸ ⋯ ─▸ n

Ids may be used more than once and connections may lead nowhere: the way back meets sources of
connections only, and these are ids of nodes.  So a graph without circles has an entry, unless it
has no nodes, and recommends something to every account.
-/

open Relation

namespace Dunning

namespace Graph

variable {g : Graph} {i : String}

/-- An id of the graph that no connection points at is that of an entry. -/
theorem exists_entry_of_untargeted (hi : i ∈ g.ids) (hfree : ¬ g.Targeted i) :
    ∃ e ∈ g.entries, e.id = i := by
  obtain ⟨e, he, rfl⟩ := List.mem_map.1 hi
  exact ⟨e, mem_entries_iff.2 ⟨he, hfree⟩, rfl⟩

theorem exists_circle_of_no_entry (hn : g.nodes ≠ []) (he : g.entry? = none) :
    ∃ k, TransGen g.Connects k k := by
  obtain ⟨n, hn⟩ := List.exists_mem_of_ne_nil _ hn
  obtain ⟨k, hk, -, hfree | hcircle⟩ := exists_origin (id_mem_ids hn)
  · obtain ⟨m, hm, rfl⟩ := List.mem_map.1 hk
    exact absurd (entry?_eq_none_iff.1 he m hm) hfree
  · exact ⟨k, hcircle⟩

theorem entry?_eq_none_of_nodes (hn : g.nodes = []) : g.entry? = none :=
  entry?_eq_none_iff.2 (by simp [hn])

/-- **Every node hangs below an entry or a circle.**  So a graph with nodes but no entry has a
circle; and one without circles is without a strategy if and only if it has no nodes. -/
theorem below_entry_or_circle (g : Graph) :
    (∀ n ∈ g.nodes, (∃ e ∈ g.entries, ReflTransGen g.Connects e.id n.id) ∨
        ∃ k, TransGen g.Connects k k ∧ ReflTransGen g.Connects k n.id) ∧
      (g.nodes ≠ [] → g.entry? = none → ∃ k, TransGen g.Connects k k) ∧
      ((∀ k, ¬ TransGen g.Connects k k) →
        ∀ a, (g.outcome a).action = "No strategy defined" ↔ g.nodes = []) := by
  refine ⟨fun n hn => ?_, exists_circle_of_no_entry, fun hacyclic a => ?_⟩
  · obtain ⟨k, hk, hbelow, hfree | hcircle⟩ := exists_origin (id_mem_ids hn)
    · obtain ⟨e, he, rfl⟩ := exists_entry_of_untargeted hk hfree
      exact .inl ⟨e, he, hbelow⟩
    · exact .inr ⟨k, hcircle, hbelow⟩
  · refine action_eq_noStrategy_iff.trans ⟨fun he => ?_, entry?_eq_none_of_nodes⟩
    by_contra hn
    obtain ⟨k, hcircle⟩ := exists_circle_of_no_entry hn he
    exact hacyclic k hcircle

end Graph

end Dunning
