import Dunning.Proofs.Graph.Editing

/-!
# Proofs/Graph/Update — a payload replaced off the way

Replacing a payload changes the first node of an id, and of that neither the id nor the connections.
A look-up by id, and the choice of the entry, go by ids too and come to the first node of one, so
they find the node that they found before, with the new payload if it is the one
(`Graph.find?_edited_update`):

    before    n₁   n₂   n₁   n₃
    after     n₁'  n₂   n₁   n₃           the second n₁ is found neither before nor after

A walk that does not come to the id asks for other nodes only, so it stays as it is
(`Graph.walk?_edited_update`).
-/

namespace Dunning

/-- The node with another payload, if it is one of the id. -/
def Node.given (id : String) (payload : Payload) (n : Node) : Node :=
  if n.id = id then { n with payload := payload } else n

namespace Graph

variable {g : Graph} {a : Account} {id : String} {payload : Payload} {n : Node}
  {before after : List Node} {o : Option Node}

/-! ## The graph after an update -/

theorem edited_update_of_splits (h : g.Splits before n after) (payload : Payload) :
    g.edited (.update n.id payload) = ⟨before ++ { n with payload := payload } :: after⟩ := by
  rw [edited, edit, update, modify_of_splits h]

/-- An update that is refused changes nothing. -/
theorem edited_update_of_notMem (h : id ∉ g.ids) (payload : Payload) :
    g.edited (.update id payload) = g := by
  rw [edited, edit, update, modify_eq_error_iff.2 ⟨h, rfl⟩]

theorem ids_edited_update (g : Graph) (id : String) (payload : Payload) :
    (g.edited (.update id payload)).ids = g.ids := by
  by_cases hid : id ∈ g.ids
  · obtain ⟨before, n, after, hsplit, rfl⟩ := exists_splits hid
    simp [edited_update_of_splits hsplit, ids, hsplit.nodes]
  · rw [edited_update_of_notMem hid]

theorem targets_edited_update (g : Graph) (id : String) (payload : Payload) :
    (g.edited (.update id payload)).targets = g.targets := by
  by_cases hid : id ∈ g.ids
  · obtain ⟨before, n, after, hsplit, rfl⟩ := exists_splits hid
    simp [edited_update_of_splits hsplit, targets, hsplit.nodes]
  · rw [edited_update_of_notMem hid]

/-- **The entries stay the entries.** -/
theorem map_id_entries_edited_update (g : Graph) (id : String) (payload : Payload) :
    (g.edited (.update id payload)).entries.map Node.id = g.entries.map Node.id := by
  rw [map_id_entries, map_id_entries, ids_edited_update, targets_edited_update]

/-! ## What is found -/

theorem map_given_eq_self (h : ∀ m, o = some m → m.id ≠ id) :
    o.map (Node.given id payload) = o := by
  cases o with
  | none => rfl
  | some m => rw [Option.map_some, Node.given, if_neg (h m rfl)]

/-- **Whatever is looked for by id is found where it was found before**, with the new payload if it
is the node updated. -/
theorem find?_edited_update (g : Graph) (id : String) (payload : Payload) (q : String → Bool) :
    ((g.edited (.update id payload)).nodes.find? fun m => q m.id) =
      (g.nodes.find? fun m => q m.id).map (Node.given id payload) := by
  by_cases hid : id ∈ g.ids
  · obtain ⟨before, n, after, hsplit, rfl⟩ := exists_splits hid
    rw [edited_update_of_splits hsplit, hsplit.nodes, List.find?_append, List.find?_append,
      Option.map_or]
    have hbefore : (before.find? fun m => q m.id).map (Node.given n.id payload) =
        before.find? fun m => q m.id :=
      map_given_eq_self fun m hm => hsplit.first m (List.mem_of_find?_eq_some hm)
    rw [hbefore]
    congr 1
    cases hq : q n.id with
    | true => simp [hq, Node.given]
    | false =>
      simp only [List.find?_cons, hq]
      refine (map_given_eq_self fun m hm hmid => ?_).symm
      have hfound := List.find?_some hm
      simp [hmid, hq] at hfound
  · rw [edited_update_of_notMem hid]
    refine (map_given_eq_self fun m hm hmid => hid ?_).symm
    exact hmid ▸ id_mem_ids (List.mem_of_find?_eq_some hm)

theorem node?_edited_update (g : Graph) (id : String) (payload : Payload) (k : String) :
    (g.edited (.update id payload)).node? k = (g.node? k).map (Node.given id payload) :=
  find?_edited_update g id payload (· == k)

theorem entry?_edited_update (g : Graph) (id : String) (payload : Payload) :
    entry? (g.edited (.update id payload)) = g.entry?.map (Node.given id payload) := by
  rw [entry?_eq_find?, entry?_eq_find?, targets_edited_update]
  exact find?_edited_update g id payload fun k => !g.targets.contains k

/-! ## Walks -/

/-- **A walk that does not come to the updated id stays as it is**, whether or not there is a node
under it. -/
theorem walk?_edited_update (h : id ∉ (g.trail a).map Node.id) (payload : Payload) :
    (g.edited (.update id payload)).walk? a = g.walk? a := by
  refine walk?_eq_of_steps ?_ fun m hm => ?_
  · rw [entry?_edited_update]
    exact map_given_eq_self fun e he hid => h (hid ▸ entry_id_mem_trail he)
  · rw [onward?_eq_map (node?_edited_update g id payload) rfl]
    exact map_given_eq_self fun l hl hid => h (hid ▸ onward?_id_mem_trail hm hl)

/-- **Editing a payload off the way is invisible**: an update, whether it succeeds or is refused,
leaves the ids of the entries as they are, and what the graph recommends to every account that does
not visit the id. -/
theorem outcome_of_update_aside (g : Graph) (id : String) (payload : Payload) :
    (g.edited (.update id payload)).entries.map Node.id = g.entries.map Node.id ∧
      ∀ a, id ∉ (g.trail a).map Node.id →
        (g.edited (.update id payload)).outcome a = g.outcome a := by
  refine ⟨map_id_entries_edited_update g id payload, fun a h => ?_⟩
  rw [outcome, walk?_edited_update h payload, outcome]

/-- The graph `crosswise` with a second node under the id of the first call. -/
def recalled : Graph := crosswise.push ⟨"call", none, .ending ⟨"", "settled", ""⟩, []⟩

/-- The first of the two calls becomes a condition, and no account on the other branch sees it. -/
theorem outcome_of_update_aside_recalled :
    recalled.edited (.update "call" (.initial .condition)) ≠ recalled ∧
      (recalled.edited (.update "call" (.initial .condition))).entries.map Node.id = ["ask"] ∧
      (recalled.edited (.update "call" (.initial .condition))).outcome .blank =
        ⟨"End: closed", 1⟩ := by
  have htrail : "call" ∉ (recalled.trail .blank).map Node.id := by decide +kernel
  obtain ⟨hentries, hsame⟩ := outcome_of_update_aside recalled "call" (.initial .condition)
  refine ⟨by decide +kernel, ?_, ?_⟩
  · rw [hentries]
    decide +kernel
  · rw [hsame .blank htrail]
    decide +kernel

end Graph

end Dunning
