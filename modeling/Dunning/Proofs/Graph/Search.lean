import Mathlib.Data.List.Nodup
import Mathlib.Data.List.Perm.Subperm
import Mathlib.Logic.Relation
import Dunning.Graph.Validation
import Dunning.Proofs.Graph.Entry

/-!
# Proofs/Graph/Search — what the search below a node finds

The search goes along `Graph.Leads`: from the last node of an id, by a connection, to an id that has
a node.  It visits exactly the ids below its start; an id it reports closes a circle; and if it
reports none, there is no circle below the start.

While the search is at a node, `path` holds the ids from the start to it:

    path      ids the search has entered and not left
    visited   those, and the ids it has left: all that lies below these is visited

An id that the search has left without a report is *grounded*, it ends all ways that lead on from
it: the ids it leads to were left before it was.
-/

open Relation

namespace Dunning

/-- There is no circle through an accessible element. -/
theorem not_transGen_of_acc {α : Type} {r : α → α → Prop} {i : α} (h : Acc (Function.swap r) i) :
    ¬ TransGen r i i := by
  induction h with
  | intro i _ ih =>
    intro hcircle
    obtain ⟨j, hij, hji⟩ := TransGen.head'_iff.1 hcircle
    exact ih j hij (TransGen.tail' hji hij)

namespace Graph

variable {g : Graph} {e i j id : String} {n m : Node} {c : Connection} {path : List String}
  {found found' found'' : Search} {fuel : Nat}

/-! ## The last node of an id -/

theorem mem_of_lastNode? (h : g.lastNode? id = some n) : n ∈ g.nodes :=
  List.mem_reverse.1 (List.mem_of_find?_eq_some h)

theorem id_of_lastNode? (h : g.lastNode? id = some n) : n.id = id := by
  simpa using List.find?_some h

theorem lastNode?_id (h : g.lastNode? id = some n) : g.lastNode? n.id = some n := by
  rw [id_of_lastNode? h, h]

theorem exists_lastNode? (h : id ∈ g.ids) : ∃ n, g.lastNode? id = some n := by
  obtain ⟨n, hn, rfl⟩ := List.mem_map.1 h
  refine Option.isSome_iff_exists.1 (List.find?_isSome.2 ⟨n, List.mem_reverse.2 hn, ?_⟩)
  simp

/-- Where ids are distinct, an id stands for its only node. -/
theorem lastNode?_of_nodup (h : g.ids.Nodup) (hn : n ∈ g.nodes) : g.lastNode? n.id = some n := by
  obtain ⟨m, hm⟩ := exists_lastNode? (id_mem_ids hn)
  rw [hm, List.inj_on_of_nodup_map h (mem_of_lastNode? hm) hn (id_of_lastNode? hm)]

/-- …and the first of an id is the last. -/
theorem lastNode?_eq_node? (h : g.ids.Nodup) (id : String) : g.lastNode? id = g.node? id := by
  refine find?_key_perm (List.reverse_perm g.nodes) ?_ id
  rw [List.map_reverse, List.nodup_reverse]
  exact h

/-! ## The relation that the search goes along -/

/-- A connection of the last node of an id leads to an id that has a node. -/
def Leads (g : Graph) (i j : String) : Prop :=
  ∃ n, g.lastNode? i = some n ∧ (∃ c ∈ n.connections, c.target = j) ∧ j ∈ g.ids

theorem leads_iff (h : g.lastNode? n.id = some n) :
    g.Leads n.id j ↔ (∃ c ∈ n.connections, c.target = j) ∧ j ∈ g.ids := by
  simp [Leads, h]

/-! ## One connection -/

/-- What the search does with a connection, `path` leading up to its source. -/
def visit (g : Graph) (fuel : Nat) (path : List String) (found : Search) (c : Connection) :
    Search :=
  if path.contains c.target then { found with cycles := c.target :: found.cycles }
  else if found.visited.contains c.target then found
  else match g.lastNode? c.target with
    | some next => g.explore fuel path next found
    | none => found

theorem explore_succ (g : Graph) (fuel : Nat) (path : List String) (n : Node) (found : Search) :
    g.explore (fuel + 1) path n found = n.connections.foldl (g.visit fuel (n.id :: path))
      { found with visited := n.id :: found.visited } := by
  rw [explore]
  rfl

/-- The second finding has all that the first has. -/
structure Search.Within (found found' : Search) : Prop where
  visited : found.visited ⊆ found'.visited
  cycles : found.cycles ⊆ found'.cycles

namespace Search.Within

theorem refl (found : Search) : found.Within found := ⟨List.Subset.refl _, List.Subset.refl _⟩

theorem trans (h : found.Within found') (h' : found'.Within found'') : found.Within found'' :=
  ⟨List.Subset.trans h.visited h'.visited, List.Subset.trans h.cycles h'.cycles⟩

theorem cycles_eq_nil (h : found.Within found') (hc : found'.cycles = []) : found.cycles = [] :=
  List.subset_nil.1 (hc ▸ h.cycles)

end Search.Within

/-! ## The invariant -/

/-- What a search from `e` has found, `path` leading up to the node it is at. -/
structure Explored (g : Graph) (e : String) (path : List String) (found : Search) : Prop where
  path_nodup : path.Nodup
  path_visited : path ⊆ found.visited
  visited_nodup : found.visited.Nodup
  known : found.visited ⊆ g.ids
  reached : ∀ i ∈ found.visited, ReflTransGen g.Leads e i
  circular : ∀ i ∈ found.cycles, ReflTransGen g.Leads e i ∧ TransGen g.Leads i i
  closed : ∀ i ∈ found.visited, i ∉ path → ∀ j, g.Leads i j → j ∈ found.visited
  grounded : found.cycles = [] →
    ∀ i ∈ found.visited, i ∉ path → Acc (Function.swap g.Leads) i

namespace Explored

theorem empty (g : Graph) (e : String) : g.Explored e [] ⟨[], []⟩ where
  path_nodup := List.nodup_nil
  path_visited := List.Subset.refl _
  visited_nodup := List.nodup_nil
  known := List.nil_subset _
  reached := by simp
  circular := by simp
  closed := by simp
  grounded := by simp

/-- Reporting an id that closes a circle. -/
theorem report (h : g.Explored e path found) (hj : ReflTransGen g.Leads e j)
    (hcircle : TransGen g.Leads j j) :
    g.Explored e path { found with cycles := j :: found.cycles } where
  path_nodup := h.path_nodup
  path_visited := h.path_visited
  visited_nodup := h.visited_nodup
  known := h.known
  reached := h.reached
  circular := List.forall_mem_cons.2 ⟨⟨hj, hcircle⟩, h.circular⟩
  closed := h.closed
  grounded := fun hc => absurd hc (List.cons_ne_nil _ _)

/-- Entering a node. -/
theorem enter (h : g.Explored e path found) (hnew : id ∉ found.visited) (hid : id ∈ g.ids)
    (hreach : ReflTransGen g.Leads e id) :
    g.Explored e (id :: path) { found with visited := id :: found.visited } := by
  have hold : ∀ i ∈ id :: found.visited, i ∉ id :: path → i ∈ found.visited ∧ i ∉ path := by
    intro i hi hp
    exact ⟨(List.mem_cons.1 hi).resolve_left (List.ne_of_not_mem_cons hp),
      List.not_mem_of_not_mem_cons hp⟩
  exact {
    path_nodup := List.nodup_cons.2 ⟨fun hp => hnew (h.path_visited hp), h.path_nodup⟩
    path_visited := List.cons_subset_cons id h.path_visited
    visited_nodup := List.nodup_cons.2 ⟨hnew, h.visited_nodup⟩
    known := List.cons_subset.2 ⟨hid, h.known⟩
    reached := List.forall_mem_cons.2 ⟨hreach, h.reached⟩
    circular := h.circular
    closed := fun i hi hp j hij =>
      List.mem_cons_of_mem _ (h.closed i (hold i hi hp).1 (hold i hi hp).2 j hij)
    grounded := fun hc i hi hp => h.grounded hc i (hold i hi hp).1 (hold i hi hp).2 }

/-- Leaving a node when all it leads to has been visited, and left where nothing is reported. -/
theorem leave (h : g.Explored e (id :: path) found)
    (hnext : ∀ j, g.Leads id j →
      j ∈ found.visited ∧ (found.cycles = [] → j ∉ id :: path)) : g.Explored e path found where
  path_nodup := (List.nodup_cons.1 h.path_nodup).2
  path_visited := (List.cons_subset.1 h.path_visited).2
  visited_nodup := h.visited_nodup
  known := h.known
  reached := h.reached
  circular := h.circular
  closed := by
    intro i hi hp j hij
    by_cases hid : i = id
    · exact (hnext j (hid ▸ hij)).1
    · exact h.closed i hi (List.not_mem_cons_of_ne_of_not_mem hid hp) j hij
  grounded := by
    intro hc i hi hp
    by_cases hid : i = id
    · refine .intro i fun j hij => ?_
      obtain ⟨hj, hleft⟩ := hnext j (hid ▸ hij)
      exact h.grounded hc j hj (hleft hc)
    · exact h.grounded hc i hi (List.not_mem_cons_of_ne_of_not_mem hid hp)

/-- A node that has not been visited is not on the path, so the path is not all of the graph. -/
theorem path_length_lt (h : g.Explored e path found) (hnew : id ∉ found.visited)
    (hid : id ∈ g.ids) : path.length < g.ids.length := by
  have hnodup : (id :: path).Nodup :=
    List.nodup_cons.2 ⟨fun hp => hnew (h.path_visited hp), h.path_nodup⟩
  have hsub : id :: path ⊆ g.ids :=
    List.cons_subset.2 ⟨hid, List.Subset.trans h.path_visited h.known⟩
  exact (hnodup.subperm hsub).length_le

end Explored

/-! ## The search keeps it -/

/-- A connection has been dealt with: its target has been visited, and left unless something is
reported. -/
def Handled (g : Graph) (path : List String) (found : Search) (c : Connection) : Prop :=
  c.target ∈ g.ids → c.target ∈ found.visited ∧ (found.cycles = [] → c.target ∉ path)

theorem Handled.mono (h : g.Handled path found c) (hw : found.Within found') :
    g.Handled path found' c := fun hid =>
  ⟨hw.visited (h hid).1, fun hc => (h hid).2 (hw.cycles_eq_nil hc)⟩

/-- The search below a node that has not been visited visits it and keeps the invariant. -/
def Explores (g : Graph) (e : String) (fuel : Nat) : Prop :=
  ∀ (path : List String) (n : Node) (found : Search), g.Explored e path found →
    g.lastNode? n.id = some n → ReflTransGen g.Leads e n.id →
    (∀ i ∈ path, ReflTransGen g.Leads i n.id) → n.id ∉ found.visited →
    g.ids.length ≤ fuel + path.length →
    g.Explored e path (g.explore fuel path n found) ∧
      n.id ∈ (g.explore fuel path n found).visited ∧ found.Within (g.explore fuel path n found)

section Source

variable (hrec : g.Explores e fuel) (hn : g.lastNode? n.id = some n)
  (hreach : ReflTransGen g.Leads e n.id) (hpath : ∀ i ∈ path, ReflTransGen g.Leads i n.id)
  (hfuel : g.ids.length ≤ fuel + path.length)

include hrec hn hreach hpath hfuel

theorem visit_spec (h : g.Explored e path found) (hc : c ∈ n.connections) :
    g.Explored e path (g.visit fuel path found c) ∧ found.Within (g.visit fuel path found c) ∧
      g.Handled path (g.visit fuel path found c) c := by
  have hleads : c.target ∈ g.ids → g.Leads n.id c.target := fun hid =>
    (leads_iff hn).2 ⟨⟨c, hc, rfl⟩, hid⟩
  by_cases hp : c.target ∈ path
  · have hv : g.visit fuel path found c = { found with cycles := c.target :: found.cycles } := by
      simp [visit, hp]
    have hvisited : c.target ∈ found.visited := h.path_visited hp
    have hback : TransGen g.Leads c.target c.target :=
      .tail' (hpath _ hp) (hleads (h.known hvisited))
    rw [hv]
    exact ⟨h.report (h.reached _ hvisited) hback,
      ⟨List.Subset.refl _, List.subset_cons_self _ _⟩,
      fun _ => ⟨hvisited, fun hnil => absurd hnil (List.cons_ne_nil _ _)⟩⟩
  by_cases hv : c.target ∈ found.visited
  · have hvisit : g.visit fuel path found c = found := by simp [visit, hp, hv]
    rw [hvisit]
    exact ⟨h, .refl found, fun _ => ⟨hv, fun _ => hp⟩⟩
  cases hl : g.lastNode? c.target with
  | none =>
    have hvisit : g.visit fuel path found c = found := by simp [visit, hp, hv, hl]
    rw [hvisit]
    refine ⟨h, .refl found, fun hid => ?_⟩
    obtain ⟨m, hm⟩ := exists_lastNode? hid
    cases hl.symm.trans hm
  | some m =>
    have hvisit : g.visit fuel path found c = g.explore fuel path m found := by
      simp [visit, hp, hv, hl]
    have hid : m.id = c.target := id_of_lastNode? hl
    have hstep : g.Leads n.id m.id := hid ▸ hleads (hid ▸ id_mem_ids (mem_of_lastNode? hl))
    obtain ⟨hexplored, hentered, hwithin⟩ := hrec path m found h (lastNode?_id hl)
      (hreach.tail hstep) (fun i hi => (hpath i hi).tail hstep) (hid ▸ hv) hfuel
    rw [hvisit]
    exact ⟨hexplored, hwithin, fun _ => ⟨hid ▸ hentered, fun _ => hp⟩⟩

theorem visits_spec {connections : List Connection} (hcs : connections ⊆ n.connections)
    (h : g.Explored e path found) :
    g.Explored e path (connections.foldl (g.visit fuel path) found) ∧
      found.Within (connections.foldl (g.visit fuel path) found) ∧
      ∀ c ∈ connections, g.Handled path (connections.foldl (g.visit fuel path) found) c := by
  induction connections generalizing found with
  | nil => exact ⟨h, .refl found, by simp⟩
  | cons c connections ih =>
    obtain ⟨hc, hrest⟩ := List.cons_subset.1 hcs
    obtain ⟨hone, hwithin, hhandled⟩ := visit_spec hrec hn hreach hpath hfuel h hc
    obtain ⟨hall, hwithin', hhandled'⟩ := ih hrest hone
    exact ⟨hall, hwithin.trans hwithin',
      List.forall_mem_cons.2 ⟨hhandled.mono hwithin', hhandled'⟩⟩

end Source

theorem explores (g : Graph) (e : String) : ∀ fuel, g.Explores e fuel
  | 0 => by
      intro path n found h hn _ _ hnew hfuel
      have hlt := h.path_length_lt hnew (id_mem_ids (mem_of_lastNode? hn))
      omega
  | fuel + 1 => by
      intro path n found h hn hreach hpath hnew hfuel
      have henter := h.enter hnew (id_mem_ids (mem_of_lastNode? hn)) hreach
      have hup : ∀ i ∈ n.id :: path, ReflTransGen g.Leads i n.id :=
        List.forall_mem_cons.2 ⟨.refl, hpath⟩
      obtain ⟨hall, hwithin, hhandled⟩ := visits_spec (explores g e fuel) hn hreach hup
        (by rw [List.length_cons]; omega) (List.Subset.refl _) henter
      rw [explore_succ]
      refine ⟨hall.leave fun j hj => ?_, hwithin.visited List.mem_cons_self,
        ⟨fun i hi => hwithin.visited (List.mem_cons_of_mem _ hi), hwithin.cycles⟩⟩
      obtain ⟨⟨c, hc, rfl⟩, hid⟩ := (leads_iff hn).1 hj
      exact hhandled c hc hid

/-! ## More fuel

The search stops by itself: where the fuel is as much as there are ids off the path, one more unit
changes nothing. -/

/-- One unit of fuel more makes no difference to the search below a node. -/
def Suffices (g : Graph) (e : String) (fuel : Nat) : Prop :=
  ∀ (path : List String) (n : Node) (found : Search), g.Explored e path found →
    g.lastNode? n.id = some n → ReflTransGen g.Leads e n.id →
    (∀ i ∈ path, ReflTransGen g.Leads i n.id) → n.id ∉ found.visited →
    g.ids.length ≤ fuel + path.length →
    g.explore (fuel + 1) path n found = g.explore fuel path n found

section Source

variable (hsuf : g.Suffices e fuel) (hn : g.lastNode? n.id = some n)
  (hreach : ReflTransGen g.Leads e n.id) (hpath : ∀ i ∈ path, ReflTransGen g.Leads i n.id)
  (hfuel : g.ids.length ≤ fuel + path.length)

include hsuf hn hreach hpath hfuel

theorem visit_succ_fuel (h : g.Explored e path found) (hc : c ∈ n.connections) :
    g.visit (fuel + 1) path found c = g.visit fuel path found c := by
  simp only [visit]
  split
  · rfl
  split
  · rfl
  next hnew =>
    cases hl : g.lastNode? c.target with
    | none => rfl
    | some m =>
      have hid : m.id = c.target := id_of_lastNode? hl
      have hstep : g.Leads n.id m.id := (leads_iff hn).2
        ⟨⟨c, hc, hid.symm⟩, id_mem_ids (mem_of_lastNode? hl)⟩
      exact hsuf path m found h (lastNode?_id hl) (hreach.tail hstep)
        (fun i hi => (hpath i hi).tail hstep) (by simpa [hid] using hnew) hfuel

theorem visits_succ_fuel {connections : List Connection} (hcs : connections ⊆ n.connections)
    (h : g.Explored e path found) :
    connections.foldl (g.visit (fuel + 1) path) found =
      connections.foldl (g.visit fuel path) found := by
  induction connections generalizing found with
  | nil => rfl
  | cons c connections ih =>
    obtain ⟨hc, hrest⟩ := List.cons_subset.1 hcs
    obtain ⟨hone, -⟩ := visit_spec (explores g e fuel) hn hreach hpath hfuel h hc
    rw [List.foldl_cons, List.foldl_cons,
      visit_succ_fuel hsuf hn hreach hpath hfuel h hc, ih hrest hone]

end Source

theorem suffices_fuel (g : Graph) (e : String) : ∀ fuel, g.Suffices e fuel
  | 0 => by
      intro path n found h hn _ _ hnew hfuel
      have hlt := h.path_length_lt hnew (id_mem_ids (mem_of_lastNode? hn))
      omega
  | fuel + 1 => by
      intro path n found h hn hreach hpath hnew hfuel
      rw [explore_succ, explore_succ]
      exact visits_succ_fuel (suffices_fuel g e fuel) hn hreach
        (List.forall_mem_cons.2 ⟨.refl, hpath⟩) (by rw [List.length_cons]; omega)
        (List.Subset.refl _) (h.enter hnew (id_mem_ids (mem_of_lastNode? hn)) hreach)

/-! ## The search from an entry -/

variable {entry : Node}

/-- **As much fuel as there are nodes is enough**: no greater limit changes what is found. -/
theorem explore_eq_search (he : g.lastNode? entry.id = some entry)
    (hfuel : g.nodes.length ≤ fuel) : g.explore fuel [] entry ⟨[], []⟩ = g.search entry := by
  obtain ⟨more, rfl⟩ := Nat.exists_eq_add_of_le hfuel
  induction more with
  | zero => rfl
  | succ more ih =>
    rw [← ih (Nat.le_add_right _ _)]
    exact suffices_fuel g entry.id (g.nodes.length + more) [] entry _ (.empty g entry.id) he .refl
      (by simp) (by simp) (by rw [ids_length]; omega)

theorem search_explored (he : g.lastNode? entry.id = some entry) :
    g.Explored entry.id [] (g.search entry) ∧ entry.id ∈ (g.search entry).visited := by
  obtain ⟨hexplored, hentered, -⟩ := explores g entry.id g.nodes.length [] entry _
    (.empty g entry.id) he .refl (by simp) (by simp) (by simp [ids])
  exact ⟨hexplored, hentered⟩

/-- **The search visits the ids below the entry**, and no others. -/
theorem mem_visited_iff (he : g.lastNode? entry.id = some entry) :
    i ∈ (g.search entry).visited ↔ ReflTransGen g.Leads entry.id i := by
  obtain ⟨h, hentered⟩ := search_explored he
  refine ⟨h.reached i, fun hi => ?_⟩
  induction hi with
  | refl => exact hentered
  | tail _ hij ih => exact h.closed _ ih List.not_mem_nil _ hij

/-- **What the search reports lies below the entry and closes a circle.** -/
theorem circle_of_mem_cycles (he : g.lastNode? entry.id = some entry)
    (hi : i ∈ (g.search entry).cycles) :
    ReflTransGen g.Leads entry.id i ∧ TransGen g.Leads i i :=
  (search_explored he).1.circular i hi

/-- **Where the search reports nothing there is no circle.** -/
theorem no_circle_of_cycles_eq_nil (he : g.lastNode? entry.id = some entry)
    (hc : (g.search entry).cycles = []) (hi : ReflTransGen g.Leads entry.id i) :
    ¬ TransGen g.Leads i i :=
  not_transGen_of_acc
    ((search_explored he).1.grounded hc i ((mem_visited_iff he).2 hi) List.not_mem_nil)

end Graph

end Dunning
