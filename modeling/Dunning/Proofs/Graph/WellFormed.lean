import Dunning.Proofs.Graph.Connection
import Dunning.Proofs.Graph.Report
import Dunning.Proofs.Graph.Search

/-!
# Proofs/Graph/WellFormed — a graph without issues

A graph is without issues exactly if it is well-formed.  The search looks only below the entry, and
looks nowhere if there is none, but this is all there is to see.  A circle anywhere is reported or
keeps the ids on it from being visited; and where there is no circle, the only id that no connection
points at is above all others (`Graph.exists_origin`).
-/

open Relation

namespace Dunning

namespace Graph

variable {g : Graph} {n e : Node} {nodes : List Node} {i j : String} {idList seen : List String}

/-- Distinct ids, no connection into the void, two branches for each condition, no unknown type;
and, unless there are no nodes, one node that no connection points at, and no circle. -/
structure WellFormed (g : Graph) : Prop where
  ids_nodup : g.ids.Nodup
  targets_exist : ∀ n ∈ g.nodes, ∀ c ∈ n.connections, c.target ∈ g.ids
  two_branches : ∀ n ∈ g.nodes, ∀ c, n.payload = .condition c → n.connections.length = 2
  types_known : ∀ n ∈ g.nodes, ∀ type data, n.payload ≠ .unknown type data
  rooted : g.nodes = [] ∨
    (∃! n, n ∈ g.nodes ∧ ¬ g.Targeted n.id) ∧ ∀ i, ¬ TransGen g.Connects i i

/-! ## Issues of one kind -/

theorem duplicateIssues_eq_nil_iff :
    duplicateIssues seen nodes = [] ↔ (nodes.map Node.id).Nodup ∧ ∀ n ∈ nodes, n.id ∉ seen := by
  simp only [List.eq_nil_iff_forall_not_mem, mem_duplicateIssues_iff,
    List.nodup_iff_forall_not_duplicate]
  constructor
  · intro h
    exact ⟨fun i hd => h _ ⟨i, rfl, .inr hd⟩,
      fun n hn hs => h _ ⟨n.id, rfl, .inl ⟨hs, List.mem_map_of_mem hn⟩⟩⟩
  · rintro ⟨hnodup, hnew⟩ x ⟨i, -, ⟨hs, hi⟩ | hd⟩
    · obtain ⟨n, hn, rfl⟩ := List.mem_map.1 hi
      exact hnew n hn hs
    · exact hnodup i hd

theorem danglingIssues_eq_nil_iff :
    danglingIssues idList n = [] ↔ ∀ c ∈ n.connections, c.target ∈ idList := by
  simp [danglingIssues]

theorem payloadIssues_eq_nil_iff :
    payloadIssues n = [] ↔ (∀ c, n.payload = .condition c → n.connections.length = 2) ∧
      ∀ type data, n.payload ≠ .unknown type data := by
  cases hp : n.payload with
  | condition c => by_cases h : n.connections.length = 2 <;> simp [payloadIssues, hp, h]
  | _ => simp [payloadIssues, hp]

theorem searchIssues_eq_nil_iff :
    g.searchIssues e = [] ↔
      (g.search e).cycles = [] ∧ ∀ n ∈ g.nodes, n.id ∈ (g.search e).visited := by
  simp [searchIssues]

theorem entryIssues_eq_nil_iff :
    g.entryIssues = [] ↔ g.nodes = [] ∨ ∃ e, g.entries = [e] ∧ g.searchIssues e = [] := by
  rw [entryIssues]
  cases he : g.entries with
  | nil => by_cases hn : g.nodes = [] <;> simp [hn]
  | cons entry others =>
    have hn : g.nodes ≠ [] := List.ne_nil_of_mem (mem_entries_iff.1 (he ▸ List.mem_cons_self)).1
    cases others <;> simp [hn]

/-! ## The entry and the search -/

/-- Where ids are distinct, the search goes along the connections that end at a node. -/
theorem leads_iff_connects (hnodup : g.ids.Nodup) : g.Leads i j ↔ g.Connects i j ∧ j ∈ g.ids := by
  constructor
  · rintro ⟨n, hn, hc, hj⟩
    exact ⟨⟨n, mem_of_lastNode? hn, id_of_lastNode? hn, hc⟩, hj⟩
  · rintro ⟨⟨n, hn, rfl, hc⟩, hj⟩
    exact ⟨n, lastNode?_of_nodup hnodup hn, hc, hj⟩

/-- The relation of the search is that of all connections. -/
theorem leads_eq_connects (hnodup : g.ids.Nodup)
    (htargets : ∀ n ∈ g.nodes, ∀ c ∈ n.connections, c.target ∈ g.ids) : g.Leads = g.Connects := by
  ext i j
  rw [leads_iff_connects hnodup, and_iff_left_iff_imp]
  rintro ⟨n, hn, -, c, hc, rfl⟩
  exact htargets n hn c hc

theorem entries_eq_singleton_iff (hnodup : g.ids.Nodup) :
    g.entries = [e] ↔ ∀ n, (n ∈ g.nodes ∧ ¬ g.Targeted n.id) ↔ n = e := by
  have hentries : g.entries.Nodup := (List.Nodup.of_map Node.id hnodup).filter _
  rw [← List.perm_singleton, List.perm_ext_iff_of_nodup hentries (List.nodup_singleton e)]
  simp [mem_entries_iff]

/-- **The search from the only entry finds nothing wrong if and only if there is no circle**, below
the entry or elsewhere. -/
theorem searchIssues_eq_nil_iff_acyclic (hnodup : g.ids.Nodup)
    (htargets : ∀ n ∈ g.nodes, ∀ c ∈ n.connections, c.target ∈ g.ids) (he : g.entries = [e]) :
    g.searchIssues e = [] ↔ ∀ i, ¬ TransGen g.Connects i i := by
  have hleads := leads_eq_connects hnodup htargets
  have honly := (entries_eq_singleton_iff hnodup).1 he
  have hlast := lastNode?_of_nodup hnodup ((honly e).2 rfl).1
  rw [searchIssues_eq_nil_iff]
  constructor
  · rintro ⟨hcycles, hvisited⟩ i hcircle
    obtain ⟨k, hik, -⟩ := TransGen.head'_iff.1 hcircle
    obtain ⟨n, hn, rfl⟩ := List.mem_map.1 hik.source_mem
    exact no_circle_of_cycles_eq_nil hlast hcycles ((mem_visited_iff hlast).1 (hvisited n hn))
      (hleads ▸ hcircle)
  · intro hacyclic
    refine ⟨List.eq_nil_iff_forall_not_mem.2 fun i hi => ?_, fun n hn => ?_⟩
    · exact hacyclic i (hleads ▸ (circle_of_mem_cycles hlast hi).2)
    · obtain ⟨k, hk, hbelow, hfree | hcircle⟩ := exists_origin (id_mem_ids hn)
      · obtain ⟨m, hm, rfl⟩ := List.mem_map.1 hk
        obtain rfl := (honly m).1 ⟨hm, hfree⟩
        rw [mem_visited_iff hlast, hleads]
        exact hbelow
      · exact absurd hcircle (hacyclic k)

theorem entryIssues_eq_nil_iff_rooted (hnodup : g.ids.Nodup)
    (htargets : ∀ n ∈ g.nodes, ∀ c ∈ n.connections, c.target ∈ g.ids) :
    g.entryIssues = [] ↔ g.nodes = [] ∨
      (∃! n, n ∈ g.nodes ∧ ¬ g.Targeted n.id) ∧ ∀ i, ¬ TransGen g.Connects i i := by
  rw [entryIssues_eq_nil_iff]
  refine or_congr_right ?_
  constructor
  · rintro ⟨e, he, hs⟩
    have honly := (entries_eq_singleton_iff hnodup).1 he
    exact ⟨⟨e, (honly e).2 rfl, fun n hn => (honly n).1 hn⟩,
      (searchIssues_eq_nil_iff_acyclic hnodup htargets he).1 hs⟩
  · rintro ⟨⟨e, hentry, hunique⟩, hacyclic⟩
    have he : g.entries = [e] := (entries_eq_singleton_iff hnodup).2 fun n =>
      ⟨hunique n, fun hn => hn ▸ hentry⟩
    exact ⟨e, he, (searchIssues_eq_nil_iff_acyclic hnodup htargets he).2 hacyclic⟩

/-- **A graph is without issues if and only if it is well-formed.** -/
theorem issues_eq_nil_iff (g : Graph) : g.issues = [] ↔ g.WellFormed := by
  have hids : duplicateIssues [] g.nodes = [] ↔ g.ids.Nodup := by
    rw [duplicateIssues_eq_nil_iff, ids]
    simp
  rw [issues, List.append_eq_nil_iff, List.append_eq_nil_iff, hids, List.flatMap_eq_nil_iff]
  simp only [List.append_eq_nil_iff, danglingIssues_eq_nil_iff, payloadIssues_eq_nil_iff]
  constructor
  · rintro ⟨⟨hnodup, hnodes⟩, hentry⟩
    have htargets := fun n hn => (hnodes n hn).1
    exact ⟨hnodup, htargets, fun n hn => (hnodes n hn).2.1, fun n hn => (hnodes n hn).2.2,
      (entryIssues_eq_nil_iff_rooted hnodup htargets).1 hentry⟩
  · intro h
    exact ⟨⟨h.ids_nodup, fun n hn =>
        ⟨h.targets_exist n hn, h.two_branches n hn, h.types_known n hn⟩⟩,
      (entryIssues_eq_nil_iff_rooted h.ids_nodup h.targets_exist).2 h.rooted⟩

end Graph

end Dunning
