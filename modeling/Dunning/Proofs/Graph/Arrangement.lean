import Dunning.Proofs.Graph.Image
import Dunning.Proofs.Graph.WellFormed

/-!
# Proofs/Graph/Arrangement — the same nodes in another order

Where ids are distinct, an id stands for the same node however the nodes are arranged, for the first
and for the last of its id alike.  The walk and the search go from node to node by ids, so the order
of the declarations shows in three places only:

    the entry                 the first of the nodes that no connection points at
    severalEntries            names these nodes in order
    issues of single nodes    come in the order of the nodes

Given the same entry, then, every account gets the same, the search reports the same circles in the
same order, and every other issue but `severalEntries` is there as often as before
(`Graph.rearranged_alike`).  Where a node is on the canvas shows nowhere.
-/

namespace Dunning

/-- The node without its place on the canvas. -/
def Node.unplaced (n : Node) : Node := { n with position := none }

/-- The same node, at this or another place. -/
def Node.Moved (n n' : Node) : Prop := n'.unplaced = n.unplaced

/-- The issue names an id that closes a circle. -/
def Issue.isCycle : Issue → Bool
  | .cycle _ => true
  | _ => false

namespace Graph

/-- The same nodes, in any order and anywhere on the canvas. -/
def Rearranged (g g' : Graph) : Prop :=
  (g.nodes.map Node.unplaced).Perm (g'.nodes.map Node.unplaced)

variable {g g' : Graph} {a : Account} {e e' m m' n n' : Node} {id : String} {fuel : Nat}
  {path : List String} {found : Search}

/-! ## Moved nodes -/

theorem moved_iff :
    n.Moved n' ↔ n'.id = n.id ∧ n'.payload = n.payload ∧ n'.connections = n.connections := by
  cases n
  cases n'
  simp [Node.Moved, Node.unplaced]

theorem condition?_moved (h : n.Moved n') : n'.condition? = n.condition? := by
  rw [Node.condition?, Node.condition?, (moved_iff.1 h).2.1]

theorem way?_moved (h : n.Moved n') (a : Account) : n'.way? a = n.way? a := by
  rw [Node.way?, Node.way?, condition?_moved h, (moved_iff.1 h).2.2]

theorem rel_of_map_eq_map {α β : Type} {f : α → β} {o o' : Option α} (h : o'.map f = o.map f) :
    Option.Rel (fun x x' => f x' = f x) o o' := by
  cases o with
  | none =>
    rw [Option.map_eq_none_iff.1 h]
    exact .none
  | some x =>
    obtain ⟨x', rfl, hx⟩ := Option.map_eq_some_iff.1 h
    exact .some hx

/-! ## The same under every id -/

section Rearranged

variable (h : g.Rearranged g')

include h

theorem ids_perm : g.ids.Perm g'.ids := by
  have hids := h.map Node.id
  rwa [List.map_map, List.map_map] at hids

theorem nodes_length_eq : g'.nodes.length = g.nodes.length := by
  simpa using h.length_eq.symm

theorem flatMap_perm {β : Type} (f : Node → List β) (hf : ∀ n : Node, f n.unplaced = f n) :
    (g.nodes.flatMap f).Perm (g'.nodes.flatMap f) := by
  have hflat := h.flatMap_right f
  simpa only [List.flatMap_map, hf] using hflat

variable (hnodup : g.ids.Nodup)

include hnodup

theorem node?_rearranged (id : String) :
    Option.Rel Node.Moved (g.node? id) (g'.node? id) := by
  have hkey : ((g.nodes.map Node.unplaced).map Node.id).Nodup := by
    rw [List.map_map]
    exact hnodup
  have hid : ∀ m : Node, m.unplaced.id = m.id := fun _ => rfl
  refine rel_of_map_eq_map ?_
  rw [← node?_map hid, ← node?_map hid]
  exact (find?_key_perm h hkey id).symm

theorem lastNode?_rearranged (id : String) :
    Option.Rel Node.Moved (g.lastNode? id) (g'.lastNode? id) := by
  rw [lastNode?_eq_node? hnodup, lastNode?_eq_node? ((ids_perm h).nodup_iff.1 hnodup)]
  exact node?_rearranged h hnodup id

/-! ## Walks -/

variable (hentry : g'.entry?.map Node.id = g.entry?.map Node.id)

include hentry

/-- Entries of one id are one node. -/
theorem entry?_rearranged :
    Option.Rel Node.Moved g.entry? g'.entry? := by
  cases he : g.entry? with
  | none =>
    rw [he, Option.map_none, Option.map_eq_none_iff] at hentry
    rw [hentry]
    exact .none
  | some e =>
    rw [he] at hentry
    obtain ⟨e', he', hid⟩ := Option.map_eq_some_iff.1 hentry
    have hnode := node?_rearranged h hnodup e.id
    rw [(entry?_eq_some_iff.1 he).node?, ← hid, (entry?_eq_some_iff.1 he').node?] at hnode
    rwa [he']

/-- **Every account gets the same.** -/
theorem outcome_rearranged (a : Account) : g'.outcome a = g.outcome a :=
  outcome_of_related
    (walk?_related (entry?_rearranged h hnodup hentry) (fun _ _ hm => (moved_iff.1 hm).1)
      (fun _ _ _ hm => condition?_moved hm) fun _ _ _ hm =>
        onward?_related (node?_rearranged h hnodup) (way?_moved hm a))
    fun _ _ hm => (moved_iff.1 hm).2.1

omit hentry

/-! ## The search -/

/-- **The search finds the same**, step by step. -/
theorem explore_rearranged (hn : n.Moved n') :
    g'.explore fuel path n' found = g.explore fuel path n found := by
  induction fuel generalizing path n n' found with
  | zero => rfl
  | succ fuel ih =>
    obtain ⟨hid, -, hconn⟩ := moved_iff.1 hn
    rw [explore_succ, explore_succ, hid, hconn]
    refine List.foldl_ext _ _ _ fun found c _ => ?_
    have hlast := lastNode?_rearranged h hnodup c.target
    rw [visit, visit]
    generalize g.lastNode? c.target = o, g'.lastNode? c.target = o' at hlast
    cases hlast with
    | none => rfl
    | some hm => simp only [ih hm]

theorem search_rearranged (he : e.Moved e') : g'.search e' = g.search e := by
  rw [search, search, nodes_length_eq h, explore_rearranged h hnodup he]

/-! ## The report -/

theorem searchIssues_perm (he : e.Moved e') :
    (g.searchIssues e).Perm (g'.searchIssues e') := by
  rw [searchIssues, searchIssues, search_rearranged h hnodup he]
  refine List.Perm.append_left _ ?_
  have hids := ((ids_perm h).filter fun i => !(g.search e).visited.contains i).map Issue.unreachable
  simpa only [ids, List.filter_map, List.map_map, Function.comp_def] using hids

omit hnodup

/-- **What is wrong with single nodes**, in whatever order. -/
theorem nodeIssues_perm :
    (g.nodes.flatMap fun n => danglingIssues g.ids n ++ payloadIssues n).Perm
      (g'.nodes.flatMap fun n => danglingIssues g'.ids n ++ payloadIssues n) := by
  have hcontains : ∀ id, g'.ids.contains id = g.ids.contains id := fun id => by
    rw [Bool.eq_iff_iff, List.contains_iff_mem, List.contains_iff_mem, (ids_perm h).mem_iff]
  have hdangling : ∀ n, danglingIssues g'.ids n = danglingIssues g.ids n := fun n => by
    simp only [danglingIssues, hcontains]
  simp only [hdangling]
  exact flatMap_perm h _ fun n => rfl

end Rearranged

/-- But for the naming of several entries, the report on the entries is that on the first. -/
theorem filter_entryIssues (g : Graph) {p : Issue → Bool}
    (hp : ∀ names, p (.severalEntries names) = false) :
    g.entryIssues.filter p =
      match g.entry? with
      | some e => (g.searchIssues e).filter p
      | none => (if g.nodes.isEmpty then [] else [Issue.noEntry]).filter p := by
  rw [entryIssues, entry?]
  cases g.entries with
  | nil => rfl
  | cons e others => cases others <;> simp [hp]

/-- The circles reported are those that the search from the entry finds. -/
theorem filter_isCycle_issues (g : Graph) :
    g.issues.filter Issue.isCycle =
      match g.entry? with
      | some e => (g.search e).cycles.reverse.map Issue.cycle
      | none => [] := by
  have hduplicate : (duplicateIssues [] g.nodes).filter Issue.isCycle = [] := by
    refine List.filter_eq_nil_iff.2 fun x hx => ?_
    obtain ⟨i, rfl, -⟩ := mem_duplicateIssues_iff.1 hx
    simp [Issue.isCycle]
  have hnode : (g.nodes.flatMap fun n =>
      danglingIssues g.ids n ++ payloadIssues n).filter Issue.isCycle = [] := by
    refine List.filter_eq_nil_iff.2 fun x hx => ?_
    obtain ⟨n, -, hx⟩ := List.mem_flatMap.1 hx
    rcases List.mem_append.1 hx with hx | hx
    · obtain ⟨c, -, -, rfl⟩ := mem_danglingIssues_iff.1 hx
      simp [Issue.isCycle]
    · obtain ⟨c, -, -, rfl⟩ | ⟨type, data, -, rfl⟩ := mem_payloadIssues_iff.1 hx <;>
        simp [Issue.isCycle]
  rw [issues, List.filter_append, List.filter_append, hduplicate, hnode,
    filter_entryIssues g fun _ => rfl]
  cases g.entry? with
  | none => by_cases hn : g.nodes = [] <;> simp [hn, Issue.isCycle]
  | some e => simp [searchIssues, List.filter_map, Function.comp_def, Issue.isCycle]

section Rearranged

variable (h : g.Rearranged g') (hnodup : g.ids.Nodup)
  (hentry : g'.entry?.map Node.id = g.entry?.map Node.id)

include h hnodup hentry

/-- **The same circles are reported**, in the same order. -/
theorem filter_isCycle_issues_rearranged :
    g'.issues.filter Issue.isCycle = g.issues.filter Issue.isCycle := by
  rw [filter_isCycle_issues, filter_isCycle_issues]
  have hrel := entry?_rearranged h hnodup hentry
  generalize g.entry? = o, g'.entry? = o' at hrel
  cases hrel with
  | none => rfl
  | some he => simp only [search_rearranged h hnodup he]

theorem entryIssues_perm {p : Issue → Bool} (hp : ∀ names, p (.severalEntries names) = false) :
    (g.entryIssues.filter p).Perm (g'.entryIssues.filter p) := by
  have hempty : g'.nodes.isEmpty = g.nodes.isEmpty := by
    rw [Bool.eq_iff_iff, List.isEmpty_iff_length_eq_zero, List.isEmpty_iff_length_eq_zero,
      nodes_length_eq h]
  rw [filter_entryIssues g hp, filter_entryIssues g' hp, hempty]
  have hrel := entry?_rearranged h hnodup hentry
  generalize g.entry? = o, g'.entry? = o' at hrel
  cases hrel with
  | none => exact .refl _
  | some he => exact (searchIssues_perm h hnodup he).filter p

/-- **The rest of the report** is the same in whatever order, but for the order in which several
entries are named. -/
theorem issues_perm {p : Issue → Bool} (hp : ∀ names, p (.severalEntries names) = false) :
    (g.issues.filter p).Perm (g'.issues.filter p) := by
  have hduplicate : duplicateIssues [] g.nodes = [] :=
    duplicateIssues_eq_nil_iff.2 ⟨hnodup, fun _ _ => List.not_mem_nil⟩
  have hduplicate' : duplicateIssues [] g'.nodes = [] :=
    duplicateIssues_eq_nil_iff.2 ⟨(ids_perm h).nodup_iff.1 hnodup, fun _ _ => List.not_mem_nil⟩
  rw [issues, issues, hduplicate, hduplicate', List.nil_append, List.nil_append,
    List.filter_append, List.filter_append]
  exact ((nodeIssues_perm h).filter p).append (entryIssues_perm h hnodup hentry hp)

end Rearranged

/-- **The order of the nodes matters only for the choice of the entry**, and their places on the
canvas for nothing.  A graph with distinct ids, rearranged so that the entry stays the entry,
recommends the same to every account; it reports the same circles in the same order, and every other
issue as often as before, except that it may name several entries in another order. -/
theorem rearranged_alike (h : g.Rearranged g') (hnodup : g.ids.Nodup)
    (hentry : g'.entry?.map Node.id = g.entry?.map Node.id) :
    (∀ a, g'.outcome a = g.outcome a) ∧
      g'.issues.filter Issue.isCycle = g.issues.filter Issue.isCycle ∧
      ∀ x, (∀ names, x ≠ .severalEntries names) → g'.issues.count x = g.issues.count x := by
  refine ⟨outcome_rearranged h hnodup hentry, filter_isCycle_issues_rearranged h hnodup hentry,
    fun x hx => ?_⟩
  have hperm := issues_perm h hnodup hentry (p := (· == x)) fun names =>
    beq_eq_false_iff_ne.2 (hx names).symm
  rw [List.count_eq_countP, List.countP_eq_length_filter, List.count_eq_countP,
    List.countP_eq_length_filter]
  exact hperm.length_eq.symm

/-- Two entries, two circles, and a connection into the void. -/
def sketch : Graph :=
  ⟨[⟨"start", none, .initial .condition, [⟨"again", none⟩, ⟨"lost", none⟩]⟩,
    ⟨"again", none, .initial .condition, [⟨"back", none⟩, ⟨"again", none⟩]⟩,
    ⟨"back", none, .initial .condition, [⟨"again", none⟩, ⟨"done", none⟩]⟩,
    ⟨"done", none, .initial .ending, []⟩,
    ⟨"spare", none, .initial .ending, []⟩]⟩

/-- The same from the last node to the first, but for the entries, and spread over the canvas. -/
def drawn : Graph :=
  ⟨[⟨"done", some ⟨2, 1⟩, .initial .ending, []⟩,
    ⟨"back", some ⟨1, 0⟩, .initial .condition, [⟨"again", none⟩, ⟨"done", none⟩]⟩,
    ⟨"again", some ⟨1, 1⟩, .initial .condition, [⟨"back", none⟩, ⟨"again", none⟩]⟩,
    ⟨"start", some ⟨0, 0⟩, .initial .condition, [⟨"again", none⟩, ⟨"lost", none⟩]⟩,
    ⟨"spare", none, .initial .ending, []⟩]⟩

/-- The circles come in the order in which the search finds them, wherever the nodes are. -/
theorem rearranged_alike_drawn :
    drawn.outcome .blank = sketch.outcome .blank ∧
      drawn.issues.filter Issue.isCycle = [.cycle "again", .cycle "again"] ∧
      drawn.issues.count (.danglingConnection "start" "lost") = 1 ∧
      drawn.issues.count (.unreachable "spare") = 1 := by
  have h : sketch.Rearranged drawn := by
    rw [Rearranged]
    decide +kernel
  obtain ⟨houtcome, hcycles, hcount⟩ :=
    rearranged_alike h (by decide) (by decide +kernel)
  refine ⟨houtcome _, ?_, ?_, ?_⟩
  · rw [hcycles]
    decide +kernel
  · rw [hcount _ (by simp)]
    decide +kernel
  · rw [hcount _ (by simp)]
    decide +kernel

end Graph

end Dunning
