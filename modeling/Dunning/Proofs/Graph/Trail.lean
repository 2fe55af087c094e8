import Mathlib.Logic.Relation
import Dunning.Proofs.Graph.Course

/-!
# Proofs/Graph/Trail — the nodes that a walk visits

A walk goes from node to node.  So a relation between ids that holds along all its steps leads from
the first id to every other (`Course.reaches`), and runs in a circle if the walk does
(`Course.circle`):

    e ─▸ n₁ ─▸ n₂ ─▸ n₃ ─▸ n₁          r e n₁, r n₁ n₂, r n₂ n₃, r n₃ n₁

What is to be said of a walk through connections is one instance, of a walk through the graph as the
search sees it another.
-/

open Relation

namespace Dunning

namespace Graph

/-- The nodes visited for an account, in order. -/
def trail (g : Graph) (a : Account) : List Node :=
  match g.walk? a with
  | some w => w.trail
  | none => []

variable {g : Graph} {a : Account} {e m n : Node} {visited : List String} {w : Walk}
  {before after : List Node} {r : String → String → Prop}

theorem trail_of_walk? (hw : g.walk? a = some w) : g.trail a = w.trail := by rw [trail, hw]

theorem outcome_of_walk? (hw : g.walk? a = some w) : g.outcome a = w.arrival.outcome := by
  rw [outcome, hw]

theorem trail_of_no_entry (h : g.entry? = none) : g.trail a = [] := by
  rw [trail, walk?, h, Option.map_none]

/-! ## How a walk ends -/

/-- **The three ends of a walk**; at the first two it has visited the node where it ends. -/
theorem Course.ends (h : Course g a visited n w) :
    (∃ before m, w.trail = before ++ [m] ∧ m.condition? = none ∧ w.arrival = .terminal m) ∨
    (∃ before m c, w.trail = before ++ [m] ∧ m.condition? = some c ∧
      g.next? m (c.holds a) = none ∧ w.arrival = .stranded m) ∨
    ∃ m, w.arrival = .cycle m := by
  induction h with
  | @cycle visited n _ => exact .inr (.inr ⟨n, rfl⟩)
  | @terminal visited n _ hc => exact .inl ⟨[], n, rfl, hc, rfl⟩
  | @stranded visited n c _ hc hn => exact .inr (.inl ⟨[], n, c, rfl, hc, hn, rfl⟩)
  | @follow visited n _ _ _ _ _ _ _ ih =>
    rcases ih with ⟨before, m, ht, hc, ha⟩ | ⟨before, m, c, ht, hc, hnext, ha⟩ | ⟨m, ha⟩
    · exact .inl ⟨n :: before, m, congrArg (n :: ·) ht, hc, ha⟩
    · exact .inr (.inl ⟨n :: before, m, c, congrArg (n :: ·) ht, hc, hnext, ha⟩)
    · exact .inr (.inr ⟨m, ha⟩)

/-- The text of a walk that runs in a circle is no other walk's. -/
theorem Course.cycle_of_action (h : Course g a visited n w)
    (ht : w.arrival.outcome.action = Outcome.cycle.action) : ∃ m, w.arrival = .cycle m := by
  rcases h.ends with ⟨-, m, -, hc, ha⟩ | ⟨-, m, c, -, -, -, ha⟩ | hcycle
  · rw [ha] at ht
    have hmem : (Outcome.ofPayload m.payload).action ∈ ownTexts := by
      rw [show (Outcome.ofPayload m.payload).action = Outcome.cycle.action from ht]
      decide
    exact absurd hmem (ofPayload_notMem_ownTexts hc)
  · rw [ha] at ht
    exact absurd ht (show Outcome.noNext.action ≠ Outcome.cycle.action by decide)
  · exact hcycle

/-! ## Where a walk leads -/

/-- A node of the trail is the one its id stands for, if the first is. -/
theorem Course.node?_of_mem (h : Course g a visited n w) (hn : g.node? n.id = some n) :
    ∀ m ∈ w.trail, g.node? m.id = some m := by
  induction h with
  | cycle => simp
  | terminal => simpa using hn
  | stranded => simpa using hn
  | follow _ hc hnext _ ih =>
    refine List.forall_mem_cons.2 ⟨hn, ih ?_⟩
    exact node?_of_onward? ((onward?_of_condition hc).trans hnext)

/-- The node where a walk starts has been visited when it ends. -/
theorem Course.visits_start (h : Course g a visited n w) :
    n.id ∈ visited ∨ n.id ∈ w.trail.map Node.id := by
  cases h with
  | cycle h => exact .inl h
  | terminal | stranded | follow => exact .inr List.mem_cons_self

/-- A node to which a walk goes on has been visited when it ends. -/
theorem Course.visits_onward {l : Node} (h : Course g a visited n w) (hm : m ∈ w.trail)
    (hl : g.onward? a m = some l) : l.id ∈ visited ∨ l.id ∈ w.trail.map Node.id := by
  induction h with
  | cycle => cases hm
  | terminal _ hc =>
    obtain rfl := List.mem_singleton.1 hm
    rw [onward?_of_not_condition hc] at hl
    cases hl
  | stranded _ hc hn =>
    obtain rfl := List.mem_singleton.1 hm
    rw [onward?_of_stranded hc hn] at hl
    cases hl
  | @follow visited n next c w _ hc hn hw ih =>
    have hvisits : l.id ∈ n.id :: visited ∨ l.id ∈ w.trail.map Node.id := by
      rcases List.mem_cons.1 hm with rfl | hm
      · rw [onward?_of_condition hc, hn] at hl
        obtain rfl := Option.some.inj hl
        exact hw.visits_start
      · exact ih hm
    simp only [Walk.after, List.map_cons, List.mem_cons] at hvisits ⊢
    tauto

/-- The entry is visited. -/
theorem entry_id_mem_trail (he : g.entry? = some e) : e.id ∈ (g.trail a).map Node.id := by
  obtain ⟨w, hw, hcourse⟩ := course_of_entry (entry?_eq_some_iff.1 he) a
  rw [trail_of_walk? hw]
  exact hcourse.visits_start.resolve_left List.not_mem_nil

/-- **Every node is visited to which a visited node sends the account.** -/
theorem onward?_id_mem_trail {l : Node} (hm : m ∈ g.trail a) (hl : g.onward? a m = some l) :
    l.id ∈ (g.trail a).map Node.id := by
  cases he : g.entry? with
  | none =>
    rw [trail_of_no_entry he] at hm
    cases hm
  | some e =>
    obtain ⟨w, hw, hcourse⟩ := course_of_entry (entry?_eq_some_iff.1 he) a
    rw [trail_of_walk? hw] at hm ⊢
    exact (hcourse.visits_onward hm hl).resolve_left List.not_mem_nil

/-- **The nodes visited are stages of the chain.** -/
theorem Course.exists_stage (h : Course g a visited n w) (hm : m ∈ w.trail) :
    ∃ k, g.stage a n k = some m := by
  induction h with
  | cycle => cases hm
  | terminal | stranded =>
    obtain rfl := List.mem_singleton.1 hm
    exact ⟨0, rfl⟩
  | @follow visited n next c w _ hc hn _ ih =>
    rcases List.mem_cons.1 hm with rfl | hm
    · exact ⟨0, rfl⟩
    · obtain ⟨k, hk⟩ := ih hm
      have hone : g.stage a n 1 = some next := (onward?_of_condition hc).trans hn
      exact ⟨1 + k, by rw [stage_add, hone, Option.bind_some, hk]⟩

theorem exists_stage_of_mem_trail (he : g.entry? = some e) (hm : m ∈ g.trail a) :
    ∃ k, g.stage a e k = some m := by
  obtain ⟨w, hw, hcourse⟩ := course_of_entry (entry?_eq_some_iff.1 he) a
  rw [trail_of_walk? hw] at hm
  exact hcourse.exists_stage hm

/-- A walk visits first the node where it starts. -/
theorem Course.eq_of_trail (h : Course g a visited n w) (ht : w.trail = m :: after) : m = n := by
  cases h with
  | cycle => cases ht
  | terminal => exact (List.cons.inj ht).1.symm
  | stranded => exact (List.cons.inj ht).1.symm
  | follow => exact (List.cons.inj ht).1.symm

/-- **What holds along the steps of a walk leads to each node it visits.** -/
theorem Course.reaches (h : Course g a visited n w) (ht : w.trail = before ++ m :: after)
    (hr : ∀ k ∈ before, ∀ l, g.onward? a k = some l → r k.id l.id) :
    ReflTransGen r n.id m.id := by
  induction before generalizing visited n w with
  | nil =>
    obtain rfl := h.eq_of_trail ht
    exact .refl
  | cons k before ih =>
    obtain ⟨hk, hrest⟩ := List.forall_mem_cons.1 hr
    obtain rfl := h.eq_of_trail ht
    cases h with
    | cycle => cases ht
    | terminal => simp at ht
    | stranded => simp at ht
    | @follow _ _ l _ w _ hc hnext hw =>
      have hstep := hk l ((onward?_of_condition hc).trans hnext)
      exact .head hstep (ih hw (List.cons.inj ht).2 hrest)

/-- **What holds along the steps of a walk that runs in a circle has a circle.** -/
theorem Course.circle (h : Course g a visited n w) (hc : w.arrival = .cycle m)
    (hv : ∀ i ∈ visited, TransGen r i n.id)
    (hr : ∀ k ∈ w.trail, ∀ l, g.onward? a k = some l → r k.id l.id) :
    ∃ i, ReflTransGen r n.id i ∧ TransGen r i i := by
  induction h with
  | @cycle visited n h => exact ⟨n.id, .refl, hv n.id h⟩
  | terminal => cases hc
  | stranded => cases hc
  | @follow visited n l c w _ hcond hnext _ ih =>
    obtain ⟨hn, hrest⟩ := List.forall_mem_cons.1 hr
    have hstep := hn l ((onward?_of_condition hcond).trans hnext)
    obtain ⟨i, hli, hcircle⟩ := ih hc
      (List.forall_mem_cons.2 ⟨.single hstep, fun i hi => (hv i hi).tail hstep⟩) hrest
    exact ⟨i, .head hstep hli, hcircle⟩

end Graph

end Dunning
