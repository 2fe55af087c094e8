import Mathlib.Data.List.Nodup
import Dunning.Graph.Basic

/-!
# Proofs/Graph/Entry — look-ups by id, and the entry

A look-up finds the first node of an id, so a node that a look-up finds is found again under its own
id (`Graph.node?_id`).  The entry is such a node too (`Graph.IsEntry.node?`): a node before it with
its id would not be pointed at either.
-/

namespace Dunning

namespace Graph

variable {g : Graph} {id : String} {n e : Node} {before after : List Node}

/-! ## Look-ups -/

theorem mem_of_node? (h : g.node? id = some n) : n ∈ g.nodes := List.mem_of_find?_eq_some h

theorem id_of_node? (h : g.node? id = some n) : n.id = id := by
  simpa using List.find?_some h

/-- **A node that a look-up finds is the one its id stands for.** -/
theorem node?_id (h : g.node? id = some n) : g.node? n.id = some n := by rw [id_of_node? h, h]

theorem id_mem_ids (h : n ∈ g.nodes) : n.id ∈ g.ids := List.mem_map_of_mem h

theorem ids_length (g : Graph) : g.ids.length = g.nodes.length := List.length_map _

/-- A look-up finds a node under every id of the graph. -/
theorem node?_isSome_of_mem (h : id ∈ g.ids) : (g.node? id).isSome := by
  obtain ⟨n, hn, rfl⟩ := List.mem_map.1 h
  exact List.find?_isSome.2 ⟨n, hn, by simp⟩

/-- The nodes before and after a node that is the first with its id. -/
structure Splits (g : Graph) (before : List Node) (n : Node) (after : List Node) : Prop where
  nodes : g.nodes = before ++ n :: after
  first : ∀ m ∈ before, m.id ≠ n.id

/-- Every id of the graph has a first node. -/
theorem exists_splits (h : id ∈ g.ids) : ∃ before n after, g.Splits before n after ∧ n.id = id := by
  obtain ⟨n, hn⟩ := Option.isSome_iff_exists.1 (node?_isSome_of_mem h)
  obtain rfl := id_of_node? hn
  obtain ⟨-, before, after, hnodes, hfirst⟩ := List.find?_eq_some_iff_append.1 hn
  exact ⟨before, n, after, ⟨hnodes, by simpa using hfirst⟩, rfl⟩

/-- **A look-up by a key that no two share** finds what is in the list under the key. -/
theorem find?_key_eq_some_iff {α κ : Type} [BEq κ] [LawfulBEq κ] {key : α → κ} {k : κ} {l : List α}
    {x : α} (hnodup : (l.map key).Nodup) :
    l.find? (fun y => key y == k) = some x ↔ x ∈ l ∧ key x = k := by
  constructor
  · intro h
    exact ⟨List.mem_of_find?_eq_some h, by simpa using List.find?_some h⟩
  · rintro ⟨hx, rfl⟩
    have hsome : (l.find? fun y => key y == key x).isSome := List.find?_isSome.2 ⟨x, hx, by simp⟩
    obtain ⟨y, hy⟩ := Option.isSome_iff_exists.1 hsome
    have hkey : key y = key x := by simpa using List.find?_some hy
    rw [hy, List.inj_on_of_nodup_map hnodup (List.mem_of_find?_eq_some hy) hx hkey]

/-- In what order the list is given does not matter to it. -/
theorem find?_key_perm {α κ : Type} [BEq κ] [LawfulBEq κ] {key : α → κ} {l l' : List α}
    (h : l.Perm l') (hnodup : (l.map key).Nodup) (k : κ) :
    l.find? (fun y => key y == k) = l'.find? fun y => key y == k := by
  have hnodup' : (l'.map key).Nodup := (h.map key).nodup_iff.1 hnodup
  ext x
  rw [find?_key_eq_some_iff hnodup, find?_key_eq_some_iff hnodup', h.mem_iff]

/-! ## The entry -/

/-- Some connection points at an id. -/
def Targeted (g : Graph) (id : String) : Prop :=
  ∃ n ∈ g.nodes, ∃ c ∈ n.connections, c.target = id

theorem mem_targets_iff : id ∈ g.targets ↔ g.Targeted id := by
  simp [targets, Targeted]

theorem mem_entries_iff : n ∈ g.entries ↔ n ∈ g.nodes ∧ ¬ g.Targeted n.id := by
  simp [entries, mem_targets_iff]

theorem entries_eq_nil_iff : g.entries = [] ↔ ∀ n ∈ g.nodes, g.Targeted n.id := by
  simp [entries, mem_targets_iff]

theorem map_id_entries (g : Graph) :
    g.entries.map Node.id = g.ids.filter fun id => !g.targets.contains id := by
  rw [entries, ids, List.filter_map]
  rfl

theorem entry?_eq_find? (g : Graph) :
    g.entry? = g.nodes.find? fun n => !g.targets.contains n.id := by
  unfold entry?
  rw [entries, List.head?_filter]

/-- The first node that no connection points at. -/
def IsEntry (g : Graph) (e : Node) : Prop :=
  ¬ g.Targeted e.id ∧
    ∃ before after, g.nodes = before ++ e :: after ∧ ∀ n ∈ before, g.Targeted n.id

theorem entry?_eq_some_iff : g.entry? = some e ↔ g.IsEntry e := by
  have hb : ∀ n : Node, (!g.targets.contains n.id) = true ↔ ¬ g.Targeted n.id := by
    simp [mem_targets_iff]
  rw [entry?_eq_find?, List.find?_eq_some_iff_append, hb]
  refine and_congr_right' (exists_congr fun before => exists_congr fun after => ?_)
  refine and_congr_right' (forall₂_congr fun n _ => ?_)
  simp [mem_targets_iff]

theorem entry?_eq_none_iff : g.entry? = none ↔ ∀ n ∈ g.nodes, g.Targeted n.id := by
  unfold entry?
  rw [List.head?_eq_none_iff, entries_eq_nil_iff]

theorem IsEntry.mem (h : g.IsEntry e) : e ∈ g.nodes := by
  obtain ⟨-, before, after, hn, -⟩ := h
  simp [hn]

/-- There is at most one entry. -/
theorem IsEntry.unique {e' : Node} (h : g.IsEntry e) (h' : g.IsEntry e') : e = e' :=
  Option.some.inj ((entry?_eq_some_iff.2 h).symm.trans (entry?_eq_some_iff.2 h'))

/-- **The entry is the node its id stands for.** -/
theorem IsEntry.node? (h : g.IsEntry e) : g.node? e.id = some e := by
  obtain ⟨hu, before, after, hn, hb⟩ := h
  refine List.find?_eq_some_iff_append.2 ⟨by simp, before, after, hn, fun n hmem => ?_⟩
  have hne : n.id ≠ e.id := fun hid => hu (hid ▸ hb n hmem)
  simpa using hne

end Graph

end Dunning
