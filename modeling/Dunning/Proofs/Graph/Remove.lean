import Mathlib.Data.List.TakeWhile
import Dunning.Graph.Edit
import Dunning.Proofs.Graph.Branch
import Dunning.Proofs.Graph.Image
import Dunning.Proofs.Graph.WellFormed

/-!
# Proofs/Graph/Remove — walks through a graph that has lost a node

Removing a node takes away the node and every connection to it, and leaves the look-ups of all other
ids as they were (`Graph.node?_without`).  Walks see it in three places:

    the entry       a node before it that only the removed node pointed at becomes the entry
    a condition     a connection to the removed node gives its position to the next one
    the walk        ends before the removed node

Only the third is meant.  The entry stays where it is if and only if the nodes before it are still
pointed at (`Graph.entry?_without_eq_iff`), and a condition sends an account the same way, or
nowhere instead of to the removed node, if and only if it is steady
(`Graph.onward?_without_eq_iff`).  Then an account that came by the removed node finds no next
action, and no other account sees a difference (`Graph.outcome_of_remove`).
-/

namespace Dunning

/-! ## Dropping connections

A label keeps its branch.  A position is handed on, to the next connection that stays. -/

section Connections

open Dunning.Graph

variable {n : Node} {id : String} {branch : Bool} {first second : Connection}
  {connections : List Connection}

@[simp] theorem Graph.dropTarget_id (id : String) (n : Node) : (dropTarget id n).id = n.id := rfl

@[simp] theorem Graph.dropTarget_condition? (id : String) (n : Node) :
    (dropTarget id n).condition? = n.condition? := rfl

/-- With the connections to an id dropped, a branch leads where it led before, or nowhere if it led
to that id. -/
def Node.Steady (id : String) (branch : Bool) (n : Node) : Prop :=
  (connectionFor (dropTarget id n).connections branch).map Connection.target =
    ((connectionFor n.connections branch).map Connection.target).filter (· != id)

/-- An element that is the only one to satisfy a predicate is found in a filtered list if
it stays. -/
theorem find?_filter_of_pairwise {α : Type} {p q : α → Bool} {l : List α}
    (honly : l.Pairwise fun x y => p x = true → p y = false) :
    (l.filter q).find? p = (l.find? p).filter q := by
  induction l with
  | nil => rfl
  | cons x l ih =>
    obtain ⟨hx, hrest⟩ := List.pairwise_cons.1 honly
    cases hp : p x with
    | true =>
      rw [List.find?_cons_of_pos hp]
      cases hq : q x with
      | true => simp [hp, hq, Option.filter_some]
      | false =>
        have hnone : (l.filter q).find? p = none := by
          refine List.find?_eq_none.2 fun y hy => ?_
          simpa using hx y (List.mem_filter.1 hy).1 hp
        simp [hq, hnone, Option.filter_some]
    | false =>
      rw [List.find?_cons_of_neg (by simp [hp]), ← ih hrest]
      cases hq : q x <;> simp [hp, hq]

/-- **Connections labelled with different branches are steady**, whatever is removed. -/
theorem Node.steady_of_labelled (hlabel : ∀ conn ∈ n.connections, conn.branch? ≠ none)
    (hdistinct : n.connections.Pairwise fun c d => c.branch? ≠ d.branch?) :
    n.Steady id branch := by
  have honly : n.connections.Pairwise fun c d =>
      (c.branch? == some branch) = true → (d.branch? == some branch) = false := by
    refine hdistinct.imp fun {c d} hne hc => ?_
    rw [beq_iff_eq] at hc
    rw [beq_eq_false_iff_ne, ← hc]
    exact hne.symm
  have hkept : ∀ conn ∈ (dropTarget id n).connections, conn.branch? ≠ none := fun conn hconn =>
    hlabel conn (List.mem_filter.1 hconn).1
  rw [Steady, connectionFor_of_labelled hlabel, connectionFor_of_labelled hkept, dropTarget,
    find?_filter_of_pairwise honly, Option.filter_map]
  rfl

/-- A node without connections to an id is steady when that is removed. -/
theorem Node.steady_of_forall_ne (h : ∀ conn ∈ n.connections, conn.target ≠ id) :
    n.Steady id branch := by
  have hdrop : (dropTarget id n).connections = n.connections :=
    List.filter_eq_self.2 fun conn hconn => by simpa using h conn hconn
  rw [Steady, hdrop]
  cases hconn : connectionFor n.connections branch with
  | none => rfl
  | some conn => simp [Option.filter_some, h conn (mem_of_connectionFor hconn)]

/-- **Of two connections without labels, the second moves up if the first is dropped**: it gets the
other branch and leaves its own. -/
theorem Node.steady_unlabelled_iff (hn : n.connections = [first, second])
    (hf : first.branch? = none) (hs : second.branch? = none) (hne : first.target ≠ second.target) :
    n.Steady id branch ↔ first.target ≠ id := by
  have hdrop : (dropTarget id n).connections = [first, second].filter (·.target != id) := by
    rw [dropTarget, hn]
  rw [Steady, hdrop, hn]
  by_cases h1 : first.target = id
  · have h2 : second.target ≠ id := fun h2 => hne (h1.trans h2.symm)
    cases branch <;> simp [connectionFor, branchIndex, Option.filter_some, hf, hs, h1, h2]
  · by_cases h2 : second.target = id <;> cases branch <;>
      simp [connectionFor, branchIndex, Option.filter_some, hf, hs, h1, h2]

end Connections

namespace Graph

variable {g g' : Graph} {a : Account} {n m r : Node} {id k : String} {visited : List String}
  {w : Walk}

/-! ## What is left of the graph -/

/-- A graph without the nodes of an id and without the connections to it. -/
def without (g : Graph) (id : String) : Graph :=
  ⟨(g.nodes.filter fun n => n.id != id).map (dropTarget id)⟩

theorem takeFirst_of_nodup {nodes : List Node} (hnodup : (nodes.map Node.id).Nodup)
    (hr : r ∈ nodes) : takeFirst r.id nodes = some (r, nodes.filter fun n => n.id != r.id) := by
  induction nodes with
  | nil => cases hr
  | cons n nodes ih =>
    obtain ⟨hn, hrest⟩ := List.nodup_cons.1 hnodup
    rcases List.mem_cons.1 hr with rfl | hr
    · have hall : ∀ m ∈ nodes, m.id ≠ r.id := fun m hm hid => hn (hid ▸ List.mem_map_of_mem hm)
      rw [takeFirst, if_pos rfl, List.filter_cons_of_neg (by simp),
        List.filter_eq_self.2 (by simpa using hall)]
    · have hne : n.id ≠ r.id := fun hid => hn (hid ▸ List.mem_map_of_mem hr)
      rw [takeFirst, if_neg hne, ih hrest hr, List.filter_cons_of_pos (by simpa using hne)]
      rfl

/-- **Where ids are distinct, removing a node removes what is under its id.** -/
theorem remove_of_nodup (hnodup : g.ids.Nodup) (hr : r ∈ g.nodes) :
    g.remove r.id = .ok (r, g.without r.id) := by
  rw [remove, takeFirst_of_nodup hnodup hr]
  rfl

/-- **Other ids stand for the same nodes as before**, but for their connections. -/
theorem node?_without (g : Graph) (hne : k ≠ id) :
    (g.without id).node? k = (g.node? k).map (dropTarget id) := by
  rw [node?, without, List.find?_map, List.find?_filter, node?]
  refine congrArg (fun p => (g.nodes.find? p).map (dropTarget id)) (funext fun n => ?_)
  by_cases hk : n.id = k
  · simp [hk, hne]
  · simp [hk]

/-! ## The entry -/

/-- A connection of a node under another id than `id` points at `k`. -/
def TargetedWithout (g : Graph) (id k : String) : Prop :=
  ∃ n ∈ g.nodes, n.id ≠ id ∧ ∃ c ∈ n.connections, c.target = k

theorem targeted_without_iff (hne : k ≠ id) :
    (g.without id).Targeted k ↔ g.TargetedWithout id k := by
  constructor
  · rintro ⟨_, hmem, c, hc, rfl⟩
    obtain ⟨n, hleft, rfl⟩ := List.mem_map.1 hmem
    obtain ⟨hn, hid⟩ := List.mem_filter.1 hleft
    exact ⟨n, hn, by simpa using hid, c, (List.mem_filter.1 hc).1, rfl⟩
  · rintro ⟨n, hn, hid, c, hc, rfl⟩
    refine ⟨dropTarget id n, List.mem_map_of_mem (List.mem_filter.2 ⟨hn, by simpa using hid⟩), c,
      List.mem_filter.2 ⟨hc, by simpa using hne⟩, rfl⟩

theorem TargetedWithout.targeted (h : g.TargetedWithout id k) : g.Targeted k := by
  obtain ⟨n, hn, -, hc⟩ := h
  exact ⟨n, hn, hc⟩

/-- The nodes before the entry; all nodes, if there is no entry. -/
def preceding (g : Graph) : List Node :=
  g.nodes.takeWhile fun n => g.targets.contains n.id

/-- Nodes before the entry, other than those of an id, are pointed at by others than those too. -/
def KeepsEntry (g : Graph) (id : String) : Prop :=
  ∀ n ∈ g.preceding, n.id ≠ id → g.TargetedWithout id n.id

/-- A second predicate that holds of the first element found is false of all elements before it just
when it finds the same. -/
theorem find?_eq_find?_iff {α : Type} {p q : α → Bool} {l : List α}
    (hfirst : ∀ x, l.find? p = some x → q x = true) :
    l.find? q = l.find? p ↔ ∀ x ∈ l.takeWhile fun x => !p x, q x = false := by
  induction l with
  | nil => simp
  | cons x l ih =>
    cases hp : p x with
    | true =>
      have hq : q x = true := hfirst x (List.find?_cons_of_pos hp)
      simp [hp, hq]
    | false =>
      have hrest := ih fun y hy => hfirst y (by rw [List.find?_cons_of_neg (by simp [hp]), hy])
      cases hq : q x with
      | true =>
        refine iff_of_false (fun h => ?_) fun h => ?_
        · rw [List.find?_cons_of_pos hq, List.find?_cons_of_neg (by simp [hp])] at h
          have hx := List.find?_some h.symm
          rw [hp] at hx
          cases hx
        · have hx := h x (by simp [hp])
          rw [hq] at hx
          cases hx
      | false => simpa [hp, hq] using hrest

/-- The entry of what is left, looked for in the whole graph. -/
theorem entry?_without (g : Graph) (id : String) :
    entry? (g.without id) = (g.nodes.find? fun n =>
      n.id != id && !(g.without id).targets.contains n.id).map (dropTarget id) := by
  have hnodes : (g.without id).nodes =
    (g.nodes.filter fun n => n.id != id).map (dropTarget id) := rfl
  rw [entry?_eq_find?, hnodes, List.find?_map, List.find?_filter]
  simp only [Bool.decide_and, Bool.decide_eq_true]
  rfl

/-- **When the entry stays where it is.** -/
theorem entry?_without_eq_iff (hnodup : g.ids.Nodup)
    (hne : ∀ e, g.entry? = some e → e.id ≠ id) :
    entry? (g.without id) = g.entry?.map (dropTarget id) ↔ g.KeepsEntry id := by
  -- nodes of one id are one node
  have hinj : ∀ {p q : Node → Bool},
      (g.nodes.find? p).map (dropTarget id) = (g.nodes.find? q).map (dropTarget id) ↔
        g.nodes.find? p = g.nodes.find? q := by
    intro p q
    refine ⟨fun h => ?_, fun h => by rw [h]⟩
    cases hp : g.nodes.find? p with
    | none =>
      rw [hp] at h
      exact (Option.map_eq_none_iff.1 h.symm).symm
    | some n =>
      rw [hp] at h
      obtain ⟨m, hm, hdrop⟩ := Option.map_eq_some_iff.1 h.symm
      have hid : m.id = n.id := by rw [← dropTarget_id id, hdrop, dropTarget_id]
      rw [hm, List.inj_on_of_nodup_map hnodup (List.mem_of_find?_eq_some hm)
        (List.mem_of_find?_eq_some hp) hid]
  have hfirst : ∀ e, g.nodes.find? (fun n => !g.targets.contains n.id) = some e →
      (e.id != id && !(g.without id).targets.contains e.id) = true := by
    intro e he
    rw [← entry?_eq_find?] at he
    have hid := hne e he
    have hfree := (entry?_eq_some_iff.1 he).1
    simpa [hid, mem_targets_iff, targeted_without_iff hid] using fun ht => hfree ht.targeted
  rw [entry?_without, entry?_eq_find?, hinj, find?_eq_find?_iff hfirst, KeepsEntry, preceding]
  simp only [Bool.not_not]
  refine forall₂_congr fun n _ => ?_
  by_cases hid : n.id = id
  · simp [hid]
  · simp [hid, mem_targets_iff, targeted_without_iff hid]

/-! ## One step -/

/-- A step in what is left is a step in the whole graph, with the connections dropped. -/
theorem onward?_without (g : Graph) (a : Account) (id : String) (n : Node) :
    (g.without id).onward? a (dropTarget id n) =
      (g.onward? a (dropTarget id n)).map (dropTarget id) := by
  rw [onward?, onward?]
  cases (dropTarget id n).condition? with
  | none => rfl
  | some c =>
    simp only [Option.bind_some, next?]
    cases hconn : connectionFor (dropTarget id n).connections (c.holds a) with
    | none => rfl
    | some conn =>
      have htarget := (List.mem_filter.1 (mem_of_connectionFor hconn)).2
      exact node?_without g (by simpa using htarget)

/-- Looking up an id other than `id` finds a node of another id. -/
theorem filter_bind_node? (g : Graph) (id : String) (target : Option String) :
    (target.filter (· != id)).bind g.node? = (target.bind g.node?).filter fun m => m.id != id := by
  cases target with
  | none => rfl
  | some k =>
    rw [Option.bind_some, Option.filter_some]
    by_cases hk : k = id
    · have hnone : (g.node? k).filter (fun m => m.id != id) = none := by
        refine Option.filter_eq_none_iff.2 fun m hm => ?_
        simp [id_of_node? hm, hk]
      simp [hk, ← hnone]
    · have hsome : (g.node? k).filter (fun m => m.id != id) = g.node? k := by
        cases hm : g.node? k with
        | none => rfl
        | some m => simp [Option.filter_some, id_of_node? hm, hk]
      simp [hk, hsome]

/-- **A steady condition sends an account to the same node**, or nowhere if that is removed. -/
theorem onward?_dropTarget (hsteady : ∀ c, n.condition? = some c → n.Steady id (c.holds a)) :
    g.onward? a (dropTarget id n) = (g.onward? a n).filter fun m => m.id != id := by
  rw [onward?, onward?, dropTarget_condition?]
  cases hc : n.condition? with
  | none => rfl
  | some c =>
    simp only [Option.bind_some, next?_eq_bind]
    rw [hsteady c hc, filter_bind_node?]

/-- Where connections lead to nodes, the next node is the one under the target. -/
theorem next?_map_id {branch : Bool} (htargets : ∀ conn ∈ n.connections, conn.target ∈ g.ids) :
    (g.next? n branch).map Node.id =
      (connectionFor n.connections branch).map Connection.target := by
  rw [next?]
  cases hconn : connectionFor n.connections branch with
  | none => rfl
  | some conn =>
    have hmem := htargets conn (mem_of_connectionFor hconn)
    obtain ⟨m, hm⟩ := Option.isSome_iff_exists.1 (node?_isSome_of_mem hmem)
    simp [hm, id_of_node? hm]

/-- **Where connections lead to nodes, only a steady condition does**: one that is not sends the
account elsewhere. -/
theorem onward?_without_eq_iff {c : Condition} (hc : n.condition? = some c)
    (htargets : ∀ conn ∈ n.connections, conn.target ∈ g.ids) :
    (g.without id).onward? a (dropTarget id n) =
        ((g.onward? a n).filter fun m => m.id != id).map (dropTarget id) ↔
      n.Steady id (c.holds a) := by
  have hc' : (dropTarget id n).condition? = some c := hc
  constructor
  · intro h
    have hids : (g.onward? a (dropTarget id n)).map Node.id =
        ((g.onward? a n).map Node.id).filter (· != id) := by
      have hmap := congrArg (Option.map Node.id) h
      rw [onward?_without, Option.map_map, Option.map_map] at hmap
      rw [Option.filter_map]
      exact hmap
    rwa [onward?_of_condition hc, onward?_of_condition hc', next?_map_id htargets,
      next?_map_id fun conn hconn => htargets conn (List.mem_filter.1 hconn).1] at hids
  · intro hsteady
    rw [onward?_without, onward?_dropTarget fun d hd => ?_]
    obtain rfl := Option.some.inj (hc.symm.trans hd)
    exact hsteady

/-! ## A walk -/

section Steps

variable (hstep : ∀ m ∈ w.trail.takeWhile (fun m => m.id != id), g'.onward? a (dropTarget id m) =
  ((g.onward? a m).filter fun l => l.id != id).map (dropTarget id))

include hstep

/-- **A walk that does not come to the removed node** stays as it is. -/
theorem Course.spared (h : Course g a [] n w) (hout : id ∉ w.trail.map Node.id) :
    Course g' a [] (dropTarget id n) (w.map (dropTarget id)) := by
  have hne : ∀ m ∈ w.trail, m.id ≠ id := fun m hm hid => hout (hid ▸ List.mem_map_of_mem hm)
  refine h.image (dropTarget_id id) (fun _ _ => rfl) fun m hm => ?_
  have hbefore : m ∈ w.trail.takeWhile fun m => m.id != id := by
    rwa [List.takeWhile_eq_self_iff.2 (by simpa using hne)]
  rw [hstep m hbefore]
  cases hl : g.onward? a m with
  | none => rfl
  | some l =>
    have hvisited := (h.visits_onward hm hl).resolve_left List.not_mem_nil
    have hid : l.id ≠ id := fun hid => hout (hid ▸ hvisited)
    simp [Option.filter_some, hid]

/-- **A walk that comes to the removed node** ends before it. -/
theorem Course.cut (h : Course g a visited n w) (hne : n.id ≠ id)
    (hin : id ∈ w.trail.map Node.id) :
    ∃ w' m, Course g' a visited (dropTarget id n) w' ∧ w'.arrival = .stranded m := by
  induction h with
  | cycle => cases hin
  | terminal => exact absurd (List.mem_singleton.1 hin).symm hne
  | stranded => exact absurd (List.mem_singleton.1 hin).symm hne
  | @follow visited n next c w h hc hn hw ih =>
    rw [Walk.after, List.takeWhile_cons_of_pos (by simpa using hne)] at hstep
    obtain ⟨hfirst, hrest⟩ := List.forall_mem_cons.1 hstep
    rw [onward?_of_condition hc, hn, onward?_of_condition (n := dropTarget id n) hc,
      Option.filter_some] at hfirst
    by_cases hnext : next.id = id
    · rw [if_neg (by simpa using hnext)] at hfirst
      exact ⟨_, _, .stranded h hc hfirst, rfl⟩
    · rw [if_pos (by simpa using hnext)] at hfirst
      obtain ⟨w', m, hw', hm⟩ := ih hrest hnext
        ((List.mem_cons.1 hin).resolve_left (Ne.symm hne))
      exact ⟨_, m, .follow h hc hfirst hw', hm⟩

end Steps

/-! ## What an account sees -/

theorem outcome_of_entry_none (h : g.entry? = none) : g.outcome a = .noStrategy := by
  rw [outcome, walk?, h, Option.map_none]

theorem outcome_map_dropTarget (id : String) (w : Walk) :
    (w.map (dropTarget id)).arrival.outcome = w.arrival.outcome := by
  rw [Walk.map]
  cases w.arrival <;> rfl

/-- Where ids are distinct, a walk visits a node just when it visits its id. -/
theorem id_mem_trail_iff (hnodup : g.ids.Nodup) (hr : r ∈ g.nodes) :
    r.id ∈ (g.trail a).map Node.id ↔ r ∈ g.trail a := by
  refine ⟨fun h => ?_, List.mem_map_of_mem⟩
  obtain ⟨n, hn, hid⟩ := List.mem_map.1 h
  rwa [← List.inj_on_of_nodup_map hnodup (mem_of_mem_trail hn) hr hid]

/-- **Removing a node only affects accounts that used it**, provided that the nodes before the
entry stay pointed at, and that the conditions on the way to the removed node are steady: an
account that has visited the node finds no next action, and any other has the same outcome as
before. -/
theorem outcome_of_remove (hnodup : g.ids.Nodup) (hr : r ∈ g.nodes) (hne : g.entry? ≠ some r)
    (hentry : g.KeepsEntry r.id)
    (hsteady : ∀ n ∈ (g.trail a).takeWhile (fun n => n.id != r.id), ∀ c,
      n.condition? = some c → n.Steady r.id (c.holds a)) :
    ∃ g', g.remove r.id = .ok (r, g') ∧ (r ∉ g.trail a → g'.outcome a = g.outcome a) ∧
      (r ∈ g.trail a → g'.outcome a = .noNext) := by
  refine ⟨g.without r.id, remove_of_nodup hnodup hr, ?_⟩
  have hother : ∀ e, g.entry? = some e → e.id ≠ r.id := fun e he hid => hne <| by
    rw [he, List.inj_on_of_nodup_map hnodup (entry?_eq_some_iff.1 he).mem hr hid]
  have hstart := (entry?_without_eq_iff hnodup hother).2 hentry
  rw [← id_mem_trail_iff hnodup hr]
  cases he : g.entry? with
  | none =>
    rw [he] at hstart
    rw [outcome_of_entry_none he, outcome_of_entry_none hstart, trail_of_no_entry he]
    exact ⟨fun _ => rfl, nofun⟩
  | some e =>
    obtain ⟨w, hw, hcourse⟩ := course_of_entry (entry?_eq_some_iff.1 he) a
    rw [he] at hstart
    rw [trail_of_walk? hw] at hsteady ⊢
    have hstep : ∀ n ∈ w.trail.takeWhile (fun n => n.id != r.id),
        (g.without r.id).onward? a (dropTarget r.id n) =
          ((g.onward? a n).filter fun m => m.id != r.id).map (dropTarget r.id) := fun n hn => by
      rw [onward?_without, onward?_dropTarget (hsteady n hn)]
    constructor
    · intro hout
      have hwalk := walk?_eq_some hstart (hcourse.spared hstep hout)
      rw [outcome_of_walk? hwalk, outcome_of_walk? hw, outcome_map_dropTarget]
    · intro hin
      obtain ⟨w', m, hw', hm⟩ := hcourse.cut hstep (hother e he) hin
      rw [outcome_of_walk? (walk?_eq_some hstart hw'), hm, Arrival.outcome]

/-- The labels of the graph name its branches, so an account that has waited finds no next action
when the wait is removed. -/
theorem outcome_of_remove_crosswise : ∃ g', crosswise.remove "wait" = .ok (crosswise.nodes[1], g') ∧
    crosswise.outcome .blank = ⟨"End: closed", 1⟩ ∧ g'.outcome .blank = .noNext := by
  have hpreceding : crosswise.preceding = [] := by decide
  have htrail : crosswise.trail .blank = [crosswise.nodes[0], crosswise.nodes[1]] := by
    decide +kernel
  have hlabel : ∀ conn ∈ crosswise.nodes[0].connections, conn.branch? ≠ none := by decide +kernel
  have hdistinct : crosswise.nodes[0].connections.Pairwise fun c d => c.branch? ≠ d.branch? := by
    decide +kernel
  obtain ⟨g', hg', -, hvisited⟩ := outcome_of_remove (g := crosswise) (r := crosswise.nodes[1])
    (a := .blank) (by decide) (by decide) (by decide) (by simp [KeepsEntry, hpreceding])
    (by
      intro n hn c hc
      rw [htrail] at hn
      obtain rfl : n = crosswise.nodes[0] := by simpa [crosswise] using hn
      exact Node.steady_of_labelled hlabel hdistinct)
  exact ⟨g', hg', by decide +kernel, hvisited (by simp [htrail])⟩

/-! ## What else a removal changes -/

/-- A question with two connections that have no labels. -/
def question (id yes no : String) : Node :=
  ⟨id, none, .condition ⟨"", .band, .equals, .text "late"⟩, [⟨yes, none⟩, ⟨no, none⟩]⟩

/-- The second question for late accounts. -/
def again : Node := question "again" "letter" "close"

/-- What late accounts get in the end. -/
def letter : Node := ⟨"letter", none, .ending ⟨"", "letter", ""⟩, []⟩

/-- The nodes but the letter. -/
def reminders : List Node :=
  [question "start" "again" "close", again, ⟨"close", none, .ending ⟨"", "closed", ""⟩, []⟩]

/-- The letter declared before the entry: only the second question points at it. -/
def letterFirst : Graph := ⟨letter :: reminders⟩

/-- The letter declared last. -/
def letterLast : Graph := ⟨reminders ++ [letter]⟩

/-- **Removing a node can affect other accounts**, in graphs without issues.  Where the letter is
declared first, it becomes the entry without the second question.  Where it is declared last, the
first question is left with one connection, at the position of the other branch: late accounts go
on where they should not, and all others find nothing. -/
theorem removal_affects_others :
    (letterFirst.WellFormed ∧ again ∈ letterFirst.nodes ∧ letterFirst.entry? ≠ some again ∧
      again ∉ letterFirst.trail .blank ∧ letterFirst.outcome .blank = ⟨"End: closed", 1⟩ ∧
      ∃ g', letterFirst.remove again.id = .ok (again, g') ∧
        g'.outcome .blank = ⟨"End: letter", 1⟩) ∧
    (letterLast.WellFormed ∧ again ∈ letterLast.nodes ∧ letterLast.entry? ≠ some again ∧
      again ∈ letterLast.trail { Account.blank with band := some "late" } ∧
      again ∉ letterLast.trail .blank ∧ letterLast.outcome .blank = ⟨"End: closed", 1⟩ ∧
      ∃ g', letterLast.remove again.id = .ok (again, g') ∧
        g'.outcome { Account.blank with band := some "late" } = ⟨"End: closed", 1⟩ ∧
        g'.outcome .blank = .noNext) := by
  have hfirst : letterFirst.WellFormed := (issues_eq_nil_iff _).1 (by decide)
  have hlast : letterLast.WellFormed := (issues_eq_nil_iff _).1 (by decide)
  have hremove : letterFirst.remove again.id = .ok (again, letterFirst.without again.id) :=
    remove_of_nodup hfirst.ids_nodup (by decide)
  have hremove' : letterLast.remove again.id = .ok (again, letterLast.without again.id) :=
    remove_of_nodup hlast.ids_nodup (by decide)
  exact ⟨⟨hfirst, by decide, by decide, by decide +kernel, by decide +kernel, _, hremove,
      by decide +kernel⟩,
    hlast, by decide, by decide, by decide +kernel, by decide +kernel, by decide +kernel, _,
      hremove', by decide +kernel, by decide +kernel⟩

end Graph

end Dunning
