import Dunning.Proofs.Graph.Trail

/-!
# Proofs/Graph/Image — walks carried over to another graph

A relation between nodes that keeps ids and conditions carries a walk of one graph over to another,
as long as it is kept by every step from the nodes that the walk visits:

    g     e ────▸ n₁ ────▸ n₂ ────▸ ⋯
          ┊r      ┊r       ┊r                 Option.Rel r (g.onward? a n) (g'.onward? a n')
    g'    e' ───▸ n₁' ───▸ n₂' ───▸ ⋯

Only visited nodes are asked about, so what an edit does elsewhere in a graph does not matter
(`Graph.Course.related`).  Most edits are maps of nodes (`Graph.Course.image`).  A walk is
determined (`Graph.Course.unique`), so the image of the walk from the entry is the walk of the other
graph (`Graph.walk?_image`); an edit that leaves the entry and the steps of a walk alone leaves the
walk (`Graph.walk?_eq_of_steps`).
-/

namespace Dunning

/-- An end, with its node carried over. -/
def Graph.Arrival.map (f : Node → Node) : Graph.Arrival → Graph.Arrival
  | .terminal n => .terminal (f n)
  | .stranded n => .stranded (f n)
  | .cycle n => .cycle (f n)

/-- A walk, with its nodes carried over. -/
def Graph.Walk.map (f : Node → Node) (w : Graph.Walk) : Graph.Walk :=
  ⟨w.trail.map f, w.arrival.map f⟩

/-- Ends of one kind, at related nodes. -/
inductive Graph.Arrival.Related (r : Node → Node → Prop) : Graph.Arrival → Graph.Arrival → Prop
  | terminal {n n' : Node} (h : r n n') : Related r (.terminal n) (.terminal n')
  | stranded {n n' : Node} (h : r n n') : Related r (.stranded n) (.stranded n')
  | cycle {n n' : Node} (h : r n n') : Related r (.cycle n) (.cycle n')

/-- Walks through nodes that are related one by one, to related ends. -/
structure Graph.Walk.Related (r : Node → Node → Prop) (w w' : Graph.Walk) : Prop where
  trail : List.Forall₂ r w.trail w'.trail
  arrival : w.arrival.Related r w'.arrival

theorem Graph.Walk.Related.eq_map {f : Node → Node} {w w' : Graph.Walk}
    (h : w.Related (fun m m' => m' = f m) w') : w' = w.map f := by
  obtain ⟨trail, arrival⟩ := w
  obtain ⟨trail', arrival'⟩ := w'
  obtain ⟨htrail, harrival⟩ := h
  have hmap : trail' = trail.map f := by
    have heq : List.Forall₂ (· = ·) (trail.map f) trail' :=
      List.forall₂_map_left_iff.2 (htrail.imp fun _ _ h => h.symm)
    rw [List.forall₂_eq_eq_eq] at heq
    exact heq.symm
  subst hmap
  cases harrival with
  | terminal h | stranded h | cycle h => rw [h]; rfl

namespace Graph

variable {g g' : Graph} {a : Account} {e n : Node} {visited : List String} {w w' : Walk}
  {f : Node → Node}

/-- **A walk is determined** by where it starts. -/
theorem Course.unique (h : Course g a visited n w) (h' : Course g a visited n w') : w = w' := by
  induction h generalizing w' with
  | cycle h =>
    cases h' with
    | cycle => rfl
    | terminal hv | stranded hv | follow hv => exact absurd h hv
  | terminal h hc =>
    cases h' with
    | cycle hv => exact absurd hv h
    | terminal => rfl
    | stranded _ hc' | follow _ hc' => cases hc.symm.trans hc'
  | stranded h hc hn =>
    cases h' with
    | cycle hv => exact absurd hv h
    | terminal _ hc' => cases hc.symm.trans hc'
    | stranded => rfl
    | follow _ hc' hn' =>
      obtain rfl := Option.some.inj (hc.symm.trans hc')
      cases hn.symm.trans hn'
  | follow h hc hn _ ih =>
    cases h' with
    | cycle hv => exact absurd hv h
    | terminal _ hc' => cases hc.symm.trans hc'
    | stranded _ hc' hn' =>
      obtain rfl := Option.some.inj (hc.symm.trans hc')
      cases hn.symm.trans hn'
    | follow _ hc' hn' hw' =>
      obtain rfl := Option.some.inj (hc.symm.trans hc')
      obtain rfl := Option.some.inj (hn.symm.trans hn')
      rw [ih hw']

/-- The walk from the entry. -/
theorem walk?_eq_some (he : g.entry? = some e) (h : Course g a [] e w) : g.walk? a = some w := by
  obtain ⟨w', hw', hcourse⟩ := course_of_entry (entry?_eq_some_iff.1 he) a
  rw [hw', hcourse.unique h]

/-- The nodes visited are nodes of the graph. -/
theorem mem_of_mem_trail (h : n ∈ g.trail a) : n ∈ g.nodes := by
  cases he : g.entry? with
  | none =>
    rw [trail_of_no_entry he] at h
    cases h
  | some e =>
    have he := entry?_eq_some_iff.1 he
    obtain ⟨w, hw, hcourse⟩ := course_of_entry he a
    rw [trail_of_walk? hw] at h
    exact hcourse.trail_subset he.mem h

/-- **A relation between nodes that the steps of a walk keep relates whole walks.** -/
theorem Course.related {r : Node → Node → Prop} {n' : Node} (h : Course g a visited n w)
    (hn : r n n') (hid : ∀ m m', r m m' → m'.id = m.id)
    (hc : ∀ m ∈ w.trail, ∀ m', r m m' → m'.condition? = m.condition?)
    (hstep : ∀ m ∈ w.trail, ∀ m', r m m' →
      Option.Rel r (g.onward? a m) (g'.onward? a m')) :
    ∃ w', Course g' a visited n' w' ∧ w.Related r w' := by
  induction h generalizing n' with
  | cycle h =>
    exact ⟨_, .cycle (by rw [hid _ _ hn]; exact h), .nil, .cycle hn⟩
  | @terminal visited n h hcond =>
    have hcond' := (hc n List.mem_cons_self n' hn).trans hcond
    exact ⟨_, .terminal (by rw [hid _ _ hn]; exact h) hcond', .cons hn .nil, .terminal hn⟩
  | @stranded visited n c h hcond hnext =>
    have hcond' := (hc n List.mem_cons_self n' hn).trans hcond
    have hrel := hstep n List.mem_cons_self n' hn
    rw [onward?_of_condition hcond, hnext, onward?_of_condition hcond'] at hrel
    generalize hnext' : g'.next? n' (c.holds a) = next' at hrel
    cases hrel
    exact ⟨_, .stranded (by rw [hid _ _ hn]; exact h) hcond' hnext', .cons hn .nil, .stranded hn⟩
  | @follow visited n m c w h hcond hnext _ ih =>
    have hcond' := (hc n List.mem_cons_self n' hn).trans hcond
    have hrel := hstep n List.mem_cons_self n' hn
    rw [onward?_of_condition hcond, hnext, onward?_of_condition hcond'] at hrel
    generalize hnext' : g'.next? n' (c.holds a) = next' at hrel
    cases hrel with
    | some hm =>
      obtain ⟨w', hw', htrail, harrival⟩ := ih hm (fun k hk => hc k (List.mem_cons_of_mem _ hk))
        fun k hk => hstep k (List.mem_cons_of_mem _ hk)
      rw [← hid _ _ hn] at hw'
      exact ⟨_, .follow (by rw [hid _ _ hn]; exact h) hcond' hnext' hw', .cons hn htrail, harrival⟩

/-- **A map that keeps ids and carries over every step of a walk carries over the walk.** -/
theorem Course.image (h : Course g a visited n w) (hid : ∀ m, (f m).id = m.id)
    (hc : ∀ m ∈ w.trail, (f m).condition? = m.condition?)
    (hstep : ∀ m ∈ w.trail, g'.onward? a (f m) = (g.onward? a m).map f) :
    Course g' a visited (f n) (w.map f) := by
  have hrelated : ∃ w', Course g' a visited (f n) w' ∧ w.Related (fun m m' => m' = f m) w' := by
    refine h.related rfl ?_ ?_ ?_
    · rintro m _ rfl
      exact hid m
    · rintro m hm _ rfl
      exact hc m hm
    · rintro m hm _ rfl
      rw [hstep m hm]
      cases g.onward? a m with
      | none => exact .none
      | some l => exact .some rfl
  obtain ⟨w', hw', hmap⟩ := hrelated
  rwa [hmap.eq_map] at hw'

/-- **Related entries start related walks.** -/
theorem walk?_related {r : Node → Node → Prop} (he : Option.Rel r g.entry? g'.entry?)
    (hid : ∀ m m', r m m' → m'.id = m.id)
    (hc : ∀ m ∈ g.trail a, ∀ m', r m m' → m'.condition? = m.condition?)
    (hstep : ∀ m ∈ g.trail a, ∀ m', r m m' → Option.Rel r (g.onward? a m) (g'.onward? a m')) :
    Option.Rel (Walk.Related r) (g.walk? a) (g'.walk? a) := by
  generalize hg : g.entry? = o, hg' : g'.entry? = o' at he
  cases he with
  | none =>
    rw [walk?, walk?, hg, hg']
    exact .none
  | some he =>
    obtain ⟨w, hw, hcourse⟩ := course_of_entry (entry?_eq_some_iff.1 hg) a
    rw [trail_of_walk? hw] at hc hstep
    obtain ⟨w', hcourse', hrelated⟩ := hcourse.related he hid hc hstep
    rw [hw, walk?_eq_some hg' hcourse']
    exact .some hrelated

theorem Arrival.Related.outcome_eq {r : Node → Node → Prop} {x x' : Arrival} (h : x.Related r x')
    (hp : ∀ m m', r m m' → m'.payload = m.payload) : x'.outcome = x.outcome := by
  cases h with
  | terminal h => exact congrArg Outcome.ofPayload (hp _ _ h)
  | stranded _ | cycle _ => rfl

/-- Related walks recommend the same, where related nodes have the same payload. -/
theorem outcome_of_related {r : Node → Node → Prop}
    (h : Option.Rel (Walk.Related r) (g.walk? a) (g'.walk? a))
    (hp : ∀ m m', r m m' → m'.payload = m.payload) : g'.outcome a = g.outcome a := by
  rw [outcome, outcome]
  generalize g.walk? a = o, g'.walk? a = o' at h
  cases h with
  | none => rfl
  | some h => exact h.arrival.outcome_eq hp

/-! ## Steps, from look-ups

The way of an account is told from the node alone, so steps are related where look-ups are. -/

theorem onward?_related {r : Node → Node → Prop} {n' : Node}
    (hnode : ∀ id, Option.Rel r (g.node? id) (g'.node? id)) (hway : n'.way? a = n.way? a) :
    Option.Rel r (g.onward? a n) (g'.onward? a n') := by
  rw [onward?_eq_bind, onward?_eq_bind, hway]
  cases n.way? a with
  | none => exact .none
  | some id => exact hnode id

theorem onward?_eq_map {n' : Node} (hnode : ∀ id, g'.node? id = (g.node? id).map f)
    (hway : n'.way? a = n.way? a) : g'.onward? a n' = (g.onward? a n).map f := by
  rw [onward?_eq_bind, onward?_eq_bind, hway, Option.map_bind]
  exact congrArg _ (funext hnode)

/-! ## The walk from the entry -/

/-- **The walk from the entry, carried over.** -/
theorem walk?_image (he : g.entry? = some e) (he' : g'.entry? = some (f e))
    (hid : ∀ m, (f m).id = m.id) (hc : ∀ m ∈ g.trail a, (f m).condition? = m.condition?)
    (hstep : ∀ m ∈ g.trail a, g'.onward? a (f m) = (g.onward? a m).map f) :
    g'.walk? a = (g.walk? a).map (Walk.map f) := by
  obtain ⟨w, hw, hcourse⟩ := course_of_entry (entry?_eq_some_iff.1 he) a
  rw [trail_of_walk? hw] at hc hstep
  rw [hw, walk?_eq_some he' (hcourse.image hid hc hstep)]
  rfl

theorem Walk.map_id (w : Walk) : w.map id = w := by
  obtain ⟨trail, arrival⟩ := w
  rw [Walk.map, List.map_id]
  cases arrival <;> rfl

/-- **A walk depends on the entry and on the steps from the nodes that it visits**, and on nothing
else of a graph. -/
theorem walk?_eq_of_steps (he : g'.entry? = g.entry?)
    (hstep : ∀ m ∈ g.trail a, g'.onward? a m = g.onward? a m) : g'.walk? a = g.walk? a := by
  cases hentry : g.entry? with
  | none => rw [walk?, walk?, he, hentry, Option.map_none, Option.map_none]
  | some e =>
    have hsame : g'.walk? a = (g.walk? a).map (Walk.map id) := by
      refine walk?_image hentry (he.trans hentry) (fun _ => rfl) (fun _ _ => rfl) fun m hm => ?_
      rw [Option.map_id]
      exact hstep m hm
    have hmap : Walk.map id = id := funext Walk.map_id
    rwa [hmap, Option.map_id] at hsame

/-! ## A map of all nodes

A map that keeps ids and connections of all nodes keeps look-ups, entry and steps. -/

section Everywhere

variable (hid : ∀ m, (f m).id = m.id) (hconn : ∀ m, (f m).connections = m.connections)
include hid

theorem node?_map (g : Graph) (id : String) :
    (Graph.mk (g.nodes.map f)).node? id = (g.node? id).map f := by
  rw [node?, List.find?_map, node?]
  simp only [Function.comp_def, hid]

include hconn

theorem entry?_map (g : Graph) : entry? (Graph.mk (g.nodes.map f)) = g.entry?.map f := by
  have htargets : (Graph.mk (g.nodes.map f)).targets = g.targets := by
    simp only [targets, List.flatMap_map, hconn]
  simp only [entries, entry?, htargets, List.filter_map, List.head?_map]
  simp only [Function.comp_def, hid]

/-- A step, carried over. -/
theorem onward?_map (g : Graph) {n : Node} (hc : (f n).condition? = n.condition?) :
    (Graph.mk (g.nodes.map f)).onward? a (f n) = (g.onward? a n).map f :=
  onward?_eq_map (node?_map hid g) (by rw [Node.way?, Node.way?, hc, hconn])

/-- **A map of all nodes that keeps ids, connections and conditions carries over every walk.** -/
theorem walk?_map (g : Graph) (a : Account) (hc : ∀ m ∈ g.nodes, (f m).condition? = m.condition?) :
    (Graph.mk (g.nodes.map f)).walk? a = (g.walk? a).map (Walk.map f) := by
  cases he : g.entry? with
  | none =>
    rw [walk?, walk?, entry?_map hid hconn, he]
    rfl
  | some e =>
    refine walk?_image he ?_ hid (fun m hm => hc m (mem_of_mem_trail hm)) fun m hm =>
      onward?_map hid hconn g (hc m (mem_of_mem_trail hm))
    rw [entry?_map hid hconn, he]
    rfl

end Everywhere

end Graph

end Dunning
