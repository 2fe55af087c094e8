import Mathlib.Data.List.Induction
import Dunning.Proofs.Graph.Remove
import Dunning.Proofs.Text.FreshName

/-!
# Proofs/Graph/Editing — graphs that come of editing

    place      one node more, under a free id, that leads nowhere
    update     another payload
    remove     one node less, and no connection to its id
    connect    one connection more, to a node that there is, in place of any to the same node

Where ids are distinct and connections lead to nodes, from no node twice to the same one, every
operation keeps it so (`Graph.Orderly.edit`).  Removing a node needs the first of this to restore
the second: it takes away a single node, but every connection to its id.  An operation is refused if
and only if a node it needs is missing, and names the first one that is (`Graph.edit_eq_error_iff`).
-/

namespace Dunning

/-- An operation on a graph, with its arguments. -/
inductive Edit where
  | place (type : NodeType) (position : Option Position)
  | update (id : String) (payload : Payload)
  | remove (id : String)
  | connect (source target : String) (label : Option String)

/-- The nodes that an operation needs, in the order in which it looks for them. -/
def Edit.needs : Edit → List String
  | .place .. => []
  | .update id _ | .remove id => [id]
  | .connect source target _ => [target, source]

/-- The first node that an operation needs and a graph has not. -/
def Edit.missing? (g : Graph) (e : Edit) : Option String :=
  e.needs.find? fun id => id ∉ g.ids

/-- The connections of a node lead to nodes, and never twice to the same. -/
structure Node.Tied (idList : List String) (n : Node) : Prop where
  targets_exist : ∀ c ∈ n.connections, c.target ∈ idList
  targets_nodup : (n.connections.map Connection.target).Nodup

namespace Node

variable {n : Node} {idList idList' : List String} {target : String} {label : Option String}

theorem tied_of_unconnected (idList : List String) (h : n.connections = []) : n.Tied idList := by
  constructor <;> simp [h]

theorem Tied.mono (h : n.Tied idList) (hsub : idList ⊆ idList') : n.Tied idList' :=
  ⟨fun c hc => hsub (h.targets_exist c hc), h.targets_nodup⟩

/-- Without its connections to an id, a node does not need the id any more. -/
theorem Tied.dropTarget (h : n.Tied idList) (id : String) :
    (Graph.dropTarget id n).Tied (idList.filter (· != id)) := by
  constructor
  · intro c hc
    obtain ⟨hmem, hne⟩ := List.mem_filter.1 hc
    exact List.mem_filter.2 ⟨h.targets_exist c hmem, hne⟩
  · exact h.targets_nodup.sublist (List.filter_sublist.map _)

/-- A new connection takes the place of the one to the same target. -/
theorem Tied.connect (h : n.Tied idList) (ht : target ∈ idList) :
    { n with connections :=
      (Graph.dropTarget target n).connections ++ [⟨target, label⟩] : Node }.Tied idList := by
  have hdrop := h.dropTarget target
  constructor
  · intro c hc
    rcases List.mem_append.1 hc with hc | hc
    · exact List.mem_of_mem_filter (hdrop.targets_exist c hc)
    · rwa [List.mem_singleton.1 hc]
  · have hnew : target ∉ (Graph.dropTarget target n).connections.map Connection.target := by
      simp [Graph.dropTarget]
    rw [List.map_append, List.map_singleton, ← List.concat_eq_append]
    exact hdrop.targets_nodup.concat hnew

end Node

namespace Graph

/-- The graph after an operation that is not refused. -/
def edit (g : Graph) : Edit → Except EditFault Graph
  | .place type position => .ok (g.place type position)
  | .update id payload => g.update id payload
  | .remove id => (g.remove id).map Prod.snd
  | .connect source target label => g.connect source target label

/-- The graph after an operation; one that is refused changes nothing. -/
def edited (g : Graph) (e : Edit) : Graph :=
  match g.edit e with
  | .ok g' => g'
  | .error _ => g

/-- A graph, empty at first, after a run of operations. -/
def ofEdits (edits : List Edit) : Graph := edits.foldl edited empty

/-- Distinct ids, and connections that lead to nodes, from no node twice to the same one. -/
structure Orderly (g : Graph) : Prop where
  ids_nodup : g.ids.Nodup
  tied : ∀ n ∈ g.nodes, n.Tied g.ids

variable {g g' : Graph} {e : Edit} {id target : String} {f : Node → Node} {n : Node}
  {nodes before after : List Node} {fault : EditFault} {idList : List String}
  {label : Option String}

/-! ## The walks, as splits -/

theorem modifyFirst_eq_none_iff : modifyFirst id f nodes = none ↔ ∀ n ∈ nodes, n.id ≠ id := by
  induction nodes with
  | nil => simp [modifyFirst]
  | cons n nodes ih => by_cases h : n.id = id <;> simp [modifyFirst, h, ih]

/-- **The first node with the id is changed, and no other.** -/
theorem modifyFirst_of_splits (hfirst : ∀ m ∈ before, m.id ≠ n.id) (f : Node → Node) :
    modifyFirst n.id f (before ++ n :: after) = some (before ++ f n :: after) := by
  induction before with
  | nil => rw [List.nil_append, modifyFirst, if_pos rfl, List.nil_append]
  | cons m before ih =>
    obtain ⟨hm, hrest⟩ := List.forall_mem_cons.1 hfirst
    rw [List.cons_append, modifyFirst, if_neg hm, ih hrest, Option.map_some, List.cons_append]

theorem modify_of_splits (h : g.Splits before n after) (f : Node → Node) :
    g.modify n.id f = .ok ⟨before ++ f n :: after⟩ := by
  rw [modify, h.nodes, modifyFirst_of_splits h.first]

theorem takeFirst_eq_none_iff : takeFirst id nodes = none ↔ ∀ n ∈ nodes, n.id ≠ id := by
  induction nodes with
  | nil => simp [takeFirst]
  | cons n nodes ih => by_cases h : n.id = id <;> simp [takeFirst, h, ih]

/-! ## When an operation is refused -/

theorem notMem_ids_iff : id ∉ g.ids ↔ ∀ n ∈ g.nodes, n.id ≠ id := by
  simp [ids]

theorem modify_eq_error_iff :
    g.modify id f = .error fault ↔ id ∉ g.ids ∧ fault = .unknownNode id := by
  rw [modify, notMem_ids_iff, ← modifyFirst_eq_none_iff (f := f)]
  cases modifyFirst id f g.nodes <;> simp [eq_comm]

theorem remove_eq_error_iff :
    g.remove id = .error fault ↔ id ∉ g.ids ∧ fault = .unknownNode id := by
  rw [remove, notMem_ids_iff, ← takeFirst_eq_none_iff]
  cases takeFirst id g.nodes <;> simp [eq_comm]

theorem connect_of_notMem {source : String} (h : target ∉ g.ids) :
    g.connect source target label = .error (.unknownNode target) := by
  have hnone : g.node? target = none := by simpa [node?] using notMem_ids_iff.1 h
  rw [connect, hnone]

theorem connect_of_mem {source : String} (h : target ∈ g.ids) :
    g.connect source target label = g.modify source fun n =>
      { n with connections := (dropTarget target n).connections ++ [⟨target, label⟩] } := by
  obtain ⟨m, hm⟩ := Option.isSome_iff_exists.1 (node?_isSome_of_mem h)
  rw [connect, hm]

/-- **An operation is refused if and only if a node it needs is missing**, and it names the first
that is. -/
theorem edit_eq_error_iff :
    g.edit e = .error fault ↔ ∃ id, e.missing? g = some id ∧ fault = .unknownNode id := by
  cases e with
  | place type position => simp [edit, Edit.missing?, Edit.needs]
  | update id payload =>
    rw [edit, update, modify_eq_error_iff]
    by_cases h : id ∈ g.ids <;> simp [Edit.missing?, Edit.needs, h]
  | remove id =>
    have hmap : (g.remove id).map Prod.snd = .error fault ↔ g.remove id = .error fault := by
      cases g.remove id <;> simp [Except.map]
    rw [edit, hmap, remove_eq_error_iff]
    by_cases h : id ∈ g.ids <;> simp [Edit.missing?, Edit.needs, h]
  | connect source target label =>
    by_cases ht : target ∈ g.ids
    · rw [edit, connect_of_mem ht, modify_eq_error_iff]
      by_cases hs : source ∈ g.ids <;> simp [Edit.missing?, Edit.needs, ht, hs]
    · rw [edit, connect_of_notMem ht]
      simp [Edit.missing?, Edit.needs, ht, eq_comm]

/-! ## What an operation keeps -/

/-- Different numbers have different ids. -/
theorem blockId_injective : Function.Injective blockId := by
  intro i j h
  have htext : Decimal.natText i = Decimal.natText j := String.append_right_inj _ |>.1 h
  exact Decimal.numeral_injective (String.ofList_injective htext)

theorem node?_isNone_iff : (g.node? id).isNone ↔ id ∉ g.ids := by
  simp [node?, ids]

/-- The number of a placed node is where a loop ends that tries those beyond the count of nodes. -/
theorem finds_freeNumber (g : Graph) :
    Text.Finds (fun k => (g.node? (blockId k)).isNone) (g.nodes.length + 1)
        (g.freeNumber g.nodes.length (g.nodes.length + 1)) ∧
      g.freeNumber g.nodes.length (g.nodes.length + 1) ≤ g.nodes.length + 1 + g.nodes.length := by
  have h := Text.finds_untaken blockId_injective (fun _ => g.node?_isNone_iff)
    (fun n => show g.freeNumber 0 n = n from rfl) (fun _ _ => rfl) (g.nodes.length + 1)
  rwa [ids_length] at h

/-- The number of a placed node is the least beyond the count of nodes whose id is free. -/
theorem isLeast_freeNumber (g : Graph) :
    IsLeast {k | g.nodes.length + 1 ≤ k ∧ (g.node? (blockId k)).isNone}
      (g.freeNumber g.nodes.length (g.nodes.length + 1)) :=
  g.finds_freeNumber.1.isLeast

/-- **A placed node gets an id that no node has.** -/
theorem freshId_notMem (g : Graph) : g.freshId ∉ g.ids :=
  node?_isNone_iff.1 g.isLeast_freeNumber.1.2

theorem ids_push (g : Graph) (n : Node) : (g.push n).ids = g.ids ++ [n.id] := by
  simp [ids, push]

theorem Orderly.push (h : g.Orderly) (hid : n.id ∉ g.ids) (hn : n.connections = []) :
    (g.push n).Orderly := by
  constructor
  · rw [ids_push, ← List.concat_eq_append]
    exact h.ids_nodup.concat hid
  · intro m hm
    rw [ids_push]
    rcases List.mem_append.1 hm with hm | hm
    · exact (h.tied m hm).mono (List.subset_append_left _ _)
    · rw [List.mem_singleton.1 hm]
      exact Node.tied_of_unconnected _ hn

/-- Changing nodes one by one is all right as long as each keeps its id and its ties. -/
theorem Orderly.modify (h : g.Orderly) (hok : g.modify id f = .ok g')
    (hf : ∀ n, (f n).id = n.id) (htied : ∀ n, n.Tied g.ids → (f n).Tied g.ids) :
    g'.Orderly := by
  by_cases hid : id ∈ g.ids
  · obtain ⟨before, n, after, hsplit, rfl⟩ := exists_splits hid
    rw [modify_of_splits hsplit] at hok
    obtain rfl := Except.ok.inj hok
    have hids : ids ⟨before ++ f n :: after⟩ = g.ids := by simp [ids, hsplit.nodes, hf]
    refine ⟨hids ▸ h.ids_nodup, fun m hm => ?_⟩
    have hold : ∀ m ∈ before ++ n :: after, m.Tied g.ids := hsplit.nodes ▸ h.tied
    rw [hids]
    rcases List.mem_append.1 hm with hm | hm
    · exact hold m (List.mem_append_left _ hm)
    rcases List.mem_cons.1 hm with rfl | hm
    · exact htied n (hold n (by simp))
    · exact hold m (List.mem_append_right _ (List.mem_cons_of_mem _ hm))
  · rw [modify_eq_error_iff.2 ⟨hid, rfl⟩] at hok
    cases hok

theorem ids_without (g : Graph) (id : String) : (g.without id).ids = g.ids.filter (· != id) := by
  rw [ids, without, List.map_map, ids, List.filter_map]
  rfl

theorem Orderly.without (h : g.Orderly) (id : String) : (g.without id).Orderly := by
  constructor
  · rw [ids_without]
    exact h.ids_nodup.filter _
  · intro m hm
    obtain ⟨n, hn, rfl⟩ := List.mem_map.1 hm
    rw [ids_without]
    exact (h.tied n (List.mem_of_mem_filter hn)).dropTarget id

/-- **Every operation keeps a graph orderly.** -/
theorem Orderly.edit (h : g.Orderly) (hok : g.edit e = .ok g') : g'.Orderly := by
  cases e with
  | place type position =>
    obtain rfl := Except.ok.inj hok
    exact h.push g.freshId_notMem rfl
  | update id payload =>
    rw [Graph.edit, update] at hok
    exact h.modify hok (fun _ => rfl) fun _ hn => ⟨hn.targets_exist, hn.targets_nodup⟩
  | remove id =>
    by_cases hid : id ∈ g.ids
    · obtain ⟨r, hr, rfl⟩ := List.mem_map.1 hid
      rw [Graph.edit, remove_of_nodup h.ids_nodup hr] at hok
      obtain rfl := Except.ok.inj hok
      exact h.without r.id
    · rw [Graph.edit, remove_eq_error_iff.2 ⟨hid, rfl⟩] at hok
      cases hok
  | connect source target label =>
    by_cases ht : target ∈ g.ids
    · rw [Graph.edit, connect_of_mem ht] at hok
      exact h.modify hok (fun _ => rfl) fun _ hn => hn.connect ht
    · rw [Graph.edit, connect_of_notMem ht] at hok
      cases hok

theorem Orderly.edited (h : g.Orderly) (e : Edit) : (g.edited e).Orderly := by
  rw [Graph.edited]
  cases hok : g.edit e with
  | ok g' => exact h.edit hok
  | error fault => exact h

/-! ## A run of operations -/

theorem ofEdits_concat (edits : List Edit) (e : Edit) :
    ofEdits (edits ++ [e]) = (ofEdits edits).edited e := by
  simp [ofEdits]

theorem orderly_ofEdits (edits : List Edit) : (ofEdits edits).Orderly := by
  induction edits using List.reverseRecOn with
  | nil => exact ⟨List.nodup_nil, fun _ hn => absurd hn List.not_mem_nil⟩
  | append_singleton edits e ih => rw [ofEdits_concat]; exact ih.edited e

/-- **Editing keeps a graph orderly**, whatever the operations, from the empty graph on: ids are
distinct, every connection leads to a node, none leads where another of its node does, and so no
duplicate and no connection into the void is ever reported.  An operation is refused if and only if
a node that it needs is missing: it names the first one (of a connection the target, and then the
source), and changes nothing. -/
theorem edited_graph_orderly (edits : List Edit) :
    let g := ofEdits edits
    g.ids.Nodup ∧
      (∀ n ∈ g.nodes, ∀ c ∈ n.connections, c.target ∈ g.ids) ∧
      (∀ n ∈ g.nodes, (n.connections.map Connection.target).Nodup) ∧
      (∀ i, .duplicateId i ∉ g.issues) ∧
      (∀ i j, .danglingConnection i j ∉ g.issues) ∧
      ∀ e fault, (g.edit e = .error fault ↔
          ∃ id, e.missing? g = some id ∧ fault = .unknownNode id) ∧
        (g.edit e = .error fault →
          ofEdits (edits ++ [e]) = g ∧ ∃ id, id ∉ g.ids ∧ fault = .unknownNode id) := by
  intro g
  have h : g.Orderly := orderly_ofEdits edits
  refine ⟨h.ids_nodup, fun n hn => (h.tied n hn).targets_exist,
    fun n hn => (h.tied n hn).targets_nodup, fun i hi => ?_, fun i j hij => ?_, fun e fault => ?_⟩
  · exact List.nodup_iff_forall_not_duplicate.1 h.ids_nodup i (duplicateId_mem_issues_iff.1 hi)
  · obtain ⟨n, hn, -, ⟨c, hc, rfl⟩, hmissing⟩ := danglingConnection_mem_issues_iff.1 hij
    exact hmissing ((h.tied n hn).targets_exist c hc)
  · refine ⟨edit_eq_error_iff, fun herror => ⟨?_, ?_⟩⟩
    · rw [ofEdits_concat, Graph.edited, herror]
    · obtain ⟨id, hid, rfl⟩ := edit_eq_error_iff.1 herror
      exact ⟨id, by simpa using List.find?_some hid, rfl⟩

/-- The second node outlives the first, and so the third does not get its id.  The connection to it
is made twice. -/
def refilled : List Edit :=
  [.place .action none, .place .condition none, .connect "block_2" "block_1" (some "yes"),
    .remove "block_1", .place .ending none, .connect "block_2" "block_3" (some "yes"),
    .connect "block_2" "block_3" none]

/-- A connection between two nodes that there are not is refused for its target. -/
theorem edited_graph_orderly_refilled :
    (ofEdits refilled).targets = ["block_3"] ∧ (ofEdits refilled).ids = ["block_2", "block_3"] ∧
      (ofEdits refilled).ids.Nodup ∧
      (∀ n ∈ (ofEdits refilled).nodes, ∀ c ∈ n.connections, c.target ∈ (ofEdits refilled).ids) ∧
      .danglingConnection "block_2" "block_1" ∉ (ofEdits refilled).issues ∧
      (ofEdits refilled).edit (.connect "block_1" "block_9" none) =
        .error (.unknownNode "block_9") ∧
      ofEdits (refilled ++ [.connect "block_1" "block_9" none]) = ofEdits refilled := by
  obtain ⟨hnodup, htargets, -, -, hdangling, hrefused⟩ := edited_graph_orderly refilled
  obtain ⟨hiff, hunchanged⟩ :=
    hrefused (.connect "block_1" "block_9" none) (.unknownNode "block_9")
  have herror := hiff.2 ⟨"block_9", by decide +kernel, rfl⟩
  exact ⟨by decide +kernel, by decide +kernel, hnodup, htargets, hdangling _ _, herror,
    (hunchanged herror).1⟩

end Graph

end Dunning
