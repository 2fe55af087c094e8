import Mathlib.Data.Finset.Card
import Mathlib.Data.List.Perm.Subperm
import Dunning.Graph.Walk
import Dunning.Proofs.Graph.Entry

/-!
# Proofs/Graph/Course — walks without a limit

The chain of an account leads from the entry through conditions, each to its next node.  It may end,
or never end (`Graph.Fate`).  A walk follows the chain until it meets an id for the second time:

    chain    e ─▸ n₁ ─▸ n₂ ─▸ n₃ ─▸ ⋯            a node is the one its id stands for,
    walk     e ─▸ n₁ ─▸ n₂ ─▸ n₁                 so a repeated id is a repeated node

and from there the chain runs in a circle.  A walk needs no more steps than the graph has ids, so
its limit never shows (`Graph.walkFrom_course`).
-/

namespace Dunning

/-- The condition that a node is, if it is one. -/
def Node.condition? (n : Node) : Option Condition :=
  match n.payload with
  | .condition c => some c
  | _ => none

theorem Node.condition?_eq_some_iff {n : Node} {c : Condition} :
    n.condition? = some c ↔ n.payload = .condition c := by
  rw [condition?]
  cases n.payload <;> simp

/-- An action, a timer, an escalation or an ending. -/
def Payload.Concludes : Payload → Prop
  | .action _ | .timer _ | .escalation _ | .ending _ => True
  | .condition _ | .unknown _ _ => False

theorem Node.concludes_or_unknown (n : Node) (hc : n.condition? = none) :
    n.payload.Concludes ∨ ∃ type data, n.payload = .unknown type data := by
  rw [condition?] at hc
  cases hp : n.payload with
  | condition c => simp [hp] at hc
  | unknown type data => exact .inr ⟨type, data, rfl⟩
  | _ => exact .inl trivial

/-- The id to which a node sends an account: that of the branch which the account takes. -/
def Node.way? (a : Account) (n : Node) : Option String :=
  n.condition?.bind fun c =>
    (Graph.connectionFor n.connections (c.holds a)).map Connection.target

namespace Graph

/-! ## The chain -/

/-- Where a node sends an account: a condition to its next node, any other node nowhere. -/
def onward? (g : Graph) (a : Account) (n : Node) : Option Node :=
  n.condition?.bind fun c => g.next? n (c.holds a)

/-- The node of the chain from `n` after a number of steps, if the chain is so long. -/
def stage (g : Graph) (a : Account) (n : Node) : Nat → Option Node
  | 0 => some n
  | k + 1 => (g.stage a n k).bind (g.onward? a)

/-- What becomes of a chain: its last node is no condition, or is a condition without a next node,
or there is no last node. -/
inductive Fate where
  | ends (last : Node)
  | strands (last : Node)
  | endless

/-- What a fate recommends. -/
def Fate.outcome : Fate → Outcome
  | .ends last => .ofPayload last.payload
  | .strands _ => .noNext
  | .endless => .cycle

/-- The fate of the chain from `e`. -/
inductive HasFate (g : Graph) (a : Account) (e : Node) : Fate → Prop
  | ends {n : Node} {k : Nat} (hs : g.stage a e k = some n) (hc : n.condition? = none) :
      HasFate g a e (.ends n)
  | strands {n : Node} {k : Nat} {c : Condition} (hs : g.stage a e k = some n)
      (hc : n.condition? = some c) (hn : g.next? n (c.holds a) = none) : HasFate g a e (.strands n)
  | endless (hs : ∀ k, (g.stage a e k).isSome) : HasFate g a e .endless

variable {g : Graph} {a : Account} {e m n : Node} {c : Condition} {i j k : Nat}

/-- **The way of an account is the same in every graph**; only the look-up at its end is not. -/
theorem onward?_eq_bind (g : Graph) (a : Account) (n : Node) :
    g.onward? a n = (n.way? a).bind g.node? := by
  rw [onward?, Node.way?]
  cases n.condition? with
  | none => rfl
  | some c =>
    rw [Option.bind_some, Option.bind_some, next?, Option.bind_map]
    rfl

theorem onward?_of_not_condition (hc : n.condition? = none) : g.onward? a n = none := by
  rw [onward?, hc, Option.bind_none]

theorem onward?_of_condition (hc : n.condition? = some c) :
    g.onward? a n = g.next? n (c.holds a) := by
  rw [onward?, hc, Option.bind_some]

theorem onward?_of_stranded (hc : n.condition? = some c) (hn : g.next? n (c.holds a) = none) :
    g.onward? a n = none := by
  rw [onward?_of_condition hc, hn]

theorem stage_succ_of_some (hs : g.stage a e k = some n) :
    g.stage a e (k + 1) = g.onward? a n := by
  rw [stage, hs, Option.bind_some]

theorem stage_add (g : Graph) (a : Account) (e : Node) (i : Nat) :
    ∀ k, g.stage a e (i + k) = (g.stage a e i).bind fun n => g.stage a n k
  | 0 => by simp [stage]
  | k + 1 => by
      rw [← Nat.add_assoc, stage, stage_add g a e i k]
      cases g.stage a e i <;> rfl

/-- A chain that reaches a stage has passed all before it. -/
theorem stage_isSome_of_le (hle : k ≤ j) (hj : (g.stage a e j).isSome) :
    (g.stage a e k).isSome := by
  obtain ⟨t, rfl⟩ := Nat.exists_eq_add_of_le hle
  rw [stage_add] at hj
  exact Option.isSome_of_isSome_bind hj

/-- Nothing comes after a node that leads nowhere. -/
theorem le_of_stage_isSome (hs : g.stage a e k = some n) (hn : g.onward? a n = none)
    (hj : (g.stage a e j).isSome) : j ≤ k := by
  by_contra hlt
  have hnext := stage_isSome_of_le (k := k + 1) (by omega) hj
  rw [stage_succ_of_some hs, hn] at hnext
  cases hnext

/-- The last node of a chain is determined. -/
theorem last_unique (hs : g.stage a e k = some n) (hn : g.onward? a n = none)
    (hs' : g.stage a e j = some m) (hm : g.onward? a m = none) : n = m := by
  have hjk : j ≤ k := le_of_stage_isSome hs hn (by rw [hs']; rfl)
  have hkj : k ≤ j := le_of_stage_isSome hs' hm (by rw [hs]; rfl)
  obtain rfl := Nat.le_antisymm hjk hkj
  exact Option.some.inj (hs.symm.trans hs')

/-- An endless chain has no last node. -/
theorem not_endless (hs : g.stage a e k = some n) (hn : g.onward? a n = none) :
    ¬ ∀ k, (g.stage a e k).isSome := fun hall => by
  have := le_of_stage_isSome hs hn (hall (k + 1))
  omega

/-- **A chain has one fate.** -/
theorem HasFate.unique {f f' : Fate} (h : g.HasFate a e f) (h' : g.HasFate a e f') : f = f' := by
  cases h with
  | ends hs hc =>
    have hn := onward?_of_not_condition (g := g) (a := a) hc
    cases h' with
    | ends hs' hc' => rw [last_unique hs hn hs' (onward?_of_not_condition hc')]
    | strands hs' hc' hn' =>
      obtain rfl := last_unique hs hn hs' (onward?_of_stranded hc' hn')
      cases hc.symm.trans hc'
    | endless hall => exact absurd hall (not_endless hs hn)
  | strands hs hc hnext =>
    have hn := onward?_of_stranded hc hnext
    cases h' with
    | ends hs' hc' =>
      obtain rfl := last_unique hs hn hs' (onward?_of_not_condition hc')
      cases hc.symm.trans hc'
    | strands hs' hc' hn' => rw [last_unique hs hn hs' (onward?_of_stranded hc' hn')]
    | endless hall => exact absurd hall (not_endless hs hn)
  | endless hall =>
    cases h' with
    | ends hs' hc' => exact absurd hall (not_endless hs' (onward?_of_not_condition hc'))
    | strands hs' hc' hn' => exact absurd hall (not_endless hs' (onward?_of_stranded hc' hn'))
    | endless => rfl

/-! ## A repeated node -/

/-- **A chain that comes to a node again goes on for ever.** -/
theorem endless_of_repeat (hlt : i < j) (hi : g.stage a e i = some n)
    (hj : g.stage a e j = some n) : ∀ k, (g.stage a e k).isSome := by
  intro k
  induction k using Nat.strong_induction_on with
  | _ k ih =>
    rcases Nat.le_total k j with hle | hle
    · exact stage_isSome_of_le hle (by rw [hj]; rfl)
    · -- the stages from the second visit on are those from the first
      obtain ⟨t, rfl⟩ := Nat.exists_eq_add_of_le hle
      have hback : g.stage a e (j + t) = g.stage a e (i + t) := by
        rw [stage_add, stage_add, hi, hj]
      rw [hback]
      exact ih (i + t) (by omega)

theorem node?_of_onward? (h : g.onward? a n = some m) : g.node? m.id = some m := by
  obtain ⟨c, -, hnext⟩ := Option.bind_eq_some_iff.1 h
  obtain ⟨conn, -, hm⟩ := Option.bind_eq_some_iff.1 hnext
  exact node?_id hm

/-- **Every node of a chain is the one its id stands for**, if the first is. -/
theorem node?_of_stage (he : g.node? e.id = some e) (hs : g.stage a e k = some n) :
    g.node? n.id = some n := by
  cases k with
  | zero =>
    obtain rfl : e = n := Option.some.inj hs
    exact he
  | succ k =>
    obtain ⟨m, -, hm⟩ := Option.bind_eq_some_iff.1 hs
    exact node?_of_onward? hm

theorem mem_of_connectionFor {connections : List Connection} {branch : Bool} {conn : Connection}
    (h : connectionFor connections branch = some conn) : conn ∈ connections := by
  rw [connectionFor] at h
  split at h
  · next hf =>
    obtain rfl := Option.some.inj h
    exact List.mem_of_find?_eq_some hf
  · exact List.mem_of_getElem? (Option.filter_eq_some_iff.1 h).1

/-- A connection leads from each node of a chain to the next. -/
theorem exists_connection_of_onward? (h : g.onward? a n = some m) :
    ∃ conn ∈ n.connections, conn.target = m.id := by
  obtain ⟨c, -, hnext⟩ := Option.bind_eq_some_iff.1 h
  obtain ⟨conn, hconn, hm⟩ := Option.bind_eq_some_iff.1 hnext
  exact ⟨conn, mem_of_connectionFor hconn, (id_of_node? hm).symm⟩

theorem targeted_of_onward? (hn : n ∈ g.nodes) (h : g.onward? a n = some m) : g.Targeted m.id :=
  ⟨n, hn, exists_connection_of_onward? h⟩

/-! ## The walk, without a limit -/

/-- The walks from a node when some ids have been visited. -/
inductive Course (g : Graph) (a : Account) : List String → Node → Walk → Prop
  | cycle {visited : List String} {n : Node} (h : n.id ∈ visited) :
      Course g a visited n ⟨[], .cycle n⟩
  | terminal {visited : List String} {n : Node} (h : n.id ∉ visited) (hc : n.condition? = none) :
      Course g a visited n ⟨[n], .terminal n⟩
  | stranded {visited : List String} {n : Node} {c : Condition} (h : n.id ∉ visited)
      (hc : n.condition? = some c) (hn : g.next? n (c.holds a) = none) :
      Course g a visited n ⟨[n], .stranded n⟩
  | follow {visited : List String} {n m : Node} {c : Condition} {w : Walk} (h : n.id ∉ visited)
      (hc : n.condition? = some c) (hn : g.next? n (c.holds a) = some m)
      (hw : Course g a (n.id :: visited) m w) : Course g a visited n (w.after n)

variable {visited : List String} {w : Walk} {fuel : Nat}

theorem walkFrom_succ (g : Graph) (a : Account) (fuel : Nat) (visited : List String) (n : Node) :
    g.walkFrom a (fuel + 1) visited n =
      if n.id ∈ visited then ⟨[], .cycle n⟩
      else match n.condition? with
        | none => ⟨[n], .terminal n⟩
        | some c =>
          match g.next? n (c.holds a) with
          | some m => (g.walkFrom a fuel (n.id :: visited) m).after n
          | none => ⟨[n], .stranded n⟩ := by
  by_cases hv : n.id ∈ visited
  · rw [walkFrom, if_pos (List.contains_iff_mem.2 hv), if_pos hv]
  · rw [walkFrom, if_neg (mt List.contains_iff_mem.1 hv), if_neg hv, Node.condition?]
    cases n.payload <;> rfl

/-- **The limit never shows**: as many steps as there are nodes, less those visited, are enough. -/
theorem walkFrom_course (hnodup : visited.Nodup) (hsub : visited ⊆ g.ids) (hn : n.id ∈ g.ids)
    (hfuel : g.ids.length ≤ fuel + visited.length) :
    Course g a visited n (g.walkFrom a fuel visited n) := by
  induction fuel generalizing visited n with
  | zero =>
    have hperm := (hnodup.subperm hsub).perm_of_length_le (by omega)
    exact .cycle (hperm.mem_iff.2 hn)
  | succ fuel ih =>
    rw [walkFrom_succ]
    split_ifs with h
    · exact .cycle h
    cases hc : n.condition? with
    | none => exact .terminal h hc
    | some c =>
      cases hnext : g.next? n (c.holds a) with
      | none =>
        simp only [hnext]
        exact .stranded h hc hnext
      | some m =>
        simp only [hnext]
        obtain ⟨conn, -, hm⟩ := Option.bind_eq_some_iff.1 hnext
        refine .follow h hc hnext (ih (List.nodup_cons.2 ⟨h, hnodup⟩) ?_ ?_ ?_)
        · exact List.cons_subset.2 ⟨hn, hsub⟩
        · exact id_mem_ids (mem_of_node? (node?_id hm))
        · rw [List.length_cons]
          omega

/-- A walk visits no id twice, and none that has been visited before. -/
theorem Course.nodup (h : Course g a visited n w) :
    (w.trail.map Node.id).Nodup ∧ ∀ id ∈ w.trail.map Node.id, id ∉ visited := by
  induction h with
  | cycle => simp
  | terminal h => simpa using h
  | stranded h => simpa using h
  | @follow visited n m c w h _ _ _ ih =>
    obtain ⟨hnodup, hfresh⟩ := ih
    simp only [Walk.after, List.map_cons, List.nodup_cons, List.forall_mem_cons]
    exact ⟨⟨fun hmem => hfresh n.id hmem List.mem_cons_self, hnodup⟩, h,
      fun id hid hv => hfresh id hid (List.mem_cons_of_mem _ hv)⟩

/-- A walk visits nodes of the graph. -/
theorem Course.trail_subset (h : Course g a visited n w) (hn : n ∈ g.nodes) :
    w.trail ⊆ g.nodes := by
  induction h with
  | cycle => exact List.nil_subset _
  | terminal => simpa using hn
  | stranded => simpa using hn
  | follow _ _ hnext _ ih =>
    obtain ⟨conn, -, hm⟩ := Option.bind_eq_some_iff.1 hnext
    exact List.cons_subset.2 ⟨hn, ih (mem_of_node? hm)⟩

/-- **A walk visits at most as many nodes as the graph has ids.** -/
theorem Course.length_le (h : Course g a visited n w) (hn : n ∈ g.nodes) :
    w.trail.length ≤ g.ids.toFinset.card := by
  rw [← List.length_map Node.id, ← List.toFinset_card_of_nodup h.nodup.1]
  refine Finset.card_le_card fun id hid => ?_
  rw [List.mem_toFinset] at hid ⊢
  exact List.map_subset Node.id (h.trail_subset hn) hid

/-- **Where a walk ends is the fate of the chain.** -/
theorem Course.fate (he : g.node? e.id = some e) (h : Course g a visited n w)
    (hs : g.stage a e k = some n)
    (hv : ∀ id ∈ visited, ∃ i < k, ∃ m, g.stage a e i = some m ∧ m.id = id) :
    ∃ f, g.HasFate a e f ∧ w.arrival.outcome = f.outcome := by
  induction h generalizing k with
  | cycle h =>
    obtain ⟨i, hi, m, hm, hid⟩ := hv _ h
    have hmn : g.node? m.id = some m := node?_of_stage he hm
    rw [hid, node?_of_stage he hs] at hmn
    obtain rfl := Option.some.inj hmn
    exact ⟨_, .endless (endless_of_repeat hi hm hs), rfl⟩
  | terminal _ hc => exact ⟨_, .ends hs hc, rfl⟩
  | stranded _ hc hn => exact ⟨_, .strands hs hc hn, rfl⟩
  | follow _ hc hn _ ih =>
    refine ih (k := k + 1) ?_ ?_
    · rw [stage_succ_of_some hs, onward?_of_condition hc, hn]
    · intro id hid
      rcases List.mem_cons.1 hid with rfl | hid
      · exact ⟨k, by omega, _, hs, rfl⟩
      · obtain ⟨i, hi, hm⟩ := hv id hid
        exact ⟨i, by omega, hm⟩

/-! ## The texts of the ends

Three texts stand for an end that is not a node's.  No node produces one: an action's text has a
dash, the texts of the others start otherwise. -/

/-- The texts that stand for a missing entry, a missing next node and an endless chain. -/
def ownTexts : List String :=
  [Outcome.noStrategy.action, Outcome.noNext.action, Outcome.cycle.action]

theorem ownTexts_shape : ∀ t ∈ Outcome.unknown.action :: ownTexts, '-' ∉ t.toList ∧
    t.toList.head? ≠ some 'W' ∧ t.toList.head? ≠ some 'E' := by
  decide

theorem ofPayload_notMem_of_concludes {p : Payload} (h : p.Concludes) :
    (Outcome.ofPayload p).action ∉ Outcome.unknown.action :: ownTexts := by
  intro hmem
  obtain ⟨hdash, hwait, hend⟩ := ownTexts_shape _ hmem
  cases p with
  | action act => simp [Outcome.ofPayload] at hdash
  | timer t => simp [Outcome.ofPayload] at hwait
  | escalation esc => simp [Outcome.ofPayload] at hend
  | ending fin => simp [Outcome.ofPayload] at hend
  | condition c => exact h
  | unknown type data => exact h

/-- **No node has one of the three texts**, unless it is a condition. -/
theorem ofPayload_notMem_ownTexts (hc : n.condition? = none) :
    (Outcome.ofPayload n.payload).action ∉ ownTexts := by
  rcases n.concludes_or_unknown hc with h | ⟨type, data, hp⟩
  · exact fun hmem => ofPayload_notMem_of_concludes h (List.mem_cons_of_mem _ hmem)
  · rw [hp]
    exact show Outcome.unknown.action ∉ ownTexts by decide

/-- The text of a fate tells the two fates that no node has. -/
theorem HasFate.action {f : Fate} (h : g.HasFate a e f) :
    f.outcome.action ≠ Outcome.noStrategy.action ∧
      (f.outcome.action = Outcome.noNext.action ↔ ∃ n, f = .strands n) ∧
      (f.outcome.action = Outcome.cycle.action ↔ f = .endless) := by
  cases h with
  | ends _ hc => simpa [ownTexts, Fate.outcome] using ofPayload_notMem_ownTexts hc
  | strands =>
    simp [Fate.outcome, Outcome.noNext, Outcome.noStrategy, Outcome.cycle, Outcome.fallback]
  | endless =>
    simp [Fate.outcome, Outcome.noNext, Outcome.noStrategy, Outcome.cycle, Outcome.fallback]

/-! ## Walks from the entry -/

theorem walk?_of_entry (he : g.IsEntry e) :
    g.walk? a = some (g.walkFrom a g.nodes.length [] e) := by
  rw [walk?, entry?_eq_some_iff.2 he, Option.map_some]

/-- The walk for an account is a walk without a limit. -/
theorem course_of_entry (he : g.IsEntry e) (a : Account) :
    ∃ w, g.walk? a = some w ∧ Course g a [] e w :=
  ⟨_, walk?_of_entry he, walkFrom_course List.nodup_nil (List.nil_subset _) (id_mem_ids he.mem)
    (by rw [ids_length, List.length_nil, Nat.add_zero])⟩

theorem exists_fate (he : g.IsEntry e) (a : Account) :
    ∃ f, g.HasFate a e f ∧ g.outcome a = f.outcome := by
  obtain ⟨w, hw, hcourse⟩ := course_of_entry he a
  obtain ⟨f, hf, hout⟩ := hcourse.fate he.node? (k := 0) rfl (by simp)
  exact ⟨f, hf, by rw [outcome, hw, ← hout]⟩

theorem outcome_of_fate {f : Fate} (he : g.IsEntry e) (hf : g.HasFate a e f) :
    g.outcome a = f.outcome := by
  obtain ⟨f', hf', hout⟩ := exists_fate he a
  rw [hout, hf.unique hf']

theorem outcome_of_no_entry (h : ∀ n ∈ g.nodes, g.Targeted n.id) :
    g.outcome a = .noStrategy := by
  rw [outcome, walk?, entry?_eq_none_iff.2 h, Option.map_none]

/-- **The text of a missing entry tells a missing entry.** -/
theorem action_eq_noStrategy_iff :
    (g.outcome a).action = Outcome.noStrategy.action ↔ g.entry? = none := by
  cases hentry : g.entry? with
  | none => simp [outcome_of_no_entry (entry?_eq_none_iff.1 hentry)]
  | some e =>
    obtain ⟨f, hf, hout⟩ := exists_fate (entry?_eq_some_iff.1 hentry) a
    simp [hout, hf.action.1]

/-- No connection leads a chain back to the entry. -/
theorem stage_succ_ne_entry (he : g.IsEntry e) (hs : g.stage a e (k + 1) = some n) :
    n.id ≠ e.id := by
  obtain ⟨m, hm, hn⟩ := Option.bind_eq_some_iff.1 hs
  intro hid
  exact he.1 (hid ▸ targeted_of_onward? (mem_of_node? (node?_of_stage he.node? hm)) hn)

/-- **What a graph recommends is the fate of the chain from its entry.**  The chain has one fate;
the walk stops within as many nodes as there are ids, without visiting an id twice and without
coming back to the entry; and the three texts that no node has tell a missing entry, a missing next
node and an endless chain. -/
theorem outcome_is_fate (g : Graph) (a : Account) :
    ((∀ n ∈ g.nodes, g.Targeted n.id) → g.outcome a = .noStrategy) ∧
      (∀ e, g.IsEntry e →
        (∃! f, g.HasFate a e f) ∧ (∀ f, g.HasFate a e f → g.outcome a = f.outcome) ∧
        (∃ w, g.walk? a = some w ∧ Course g a [] e w ∧ (w.trail.map Node.id).Nodup ∧
          w.trail.length ≤ g.ids.toFinset.card) ∧
        ∀ k n, g.stage a e (k + 1) = some n → n.id ≠ e.id) ∧
      ((g.outcome a).action = "No strategy defined" ↔ ∀ n ∈ g.nodes, g.Targeted n.id) ∧
      ((g.outcome a).action = "No next action" ↔
        ∃ e n, g.IsEntry e ∧ g.HasFate a e (.strands n)) ∧
      ((g.outcome a).action = "Cycle detected" ↔ ∃ e, g.IsEntry e ∧ g.HasFate a e .endless) := by
  refine ⟨outcome_of_no_entry, fun e he => ⟨?_, fun f => outcome_of_fate he, ?_, ?_⟩, ?_⟩
  · obtain ⟨f, hf, -⟩ := exists_fate he a
    exact ⟨f, hf, fun f' hf' => hf'.unique hf⟩
  · obtain ⟨w, hw, hcourse⟩ := course_of_entry he a
    exact ⟨w, hw, hcourse, hcourse.nodup.1, hcourse.length_le he.mem⟩
  · exact fun k n => stage_succ_ne_entry he
  cases hentry : g.entry? with
  | none =>
    have hall := entry?_eq_none_iff.1 hentry
    have hno : ∀ e, ¬ g.IsEntry e := fun e he => by
      rw [entry?_eq_some_iff.2 he] at hentry
      cases hentry
    simpa [outcome_of_no_entry hall, hno, Outcome.noStrategy, Outcome.fallback] using hall
  | some e =>
    have he := entry?_eq_some_iff.1 hentry
    obtain ⟨f, hf, hout⟩ := exists_fate he a
    obtain ⟨hstart, hnext, hcycle⟩ := hf.action
    rw [hout]
    refine ⟨⟨fun h => absurd h hstart, fun h => absurd (h e he.mem) he.1⟩, hnext.trans ?_,
      hcycle.trans ?_⟩
    · constructor
      · rintro ⟨n, rfl⟩
        exact ⟨e, n, he, hf⟩
      · rintro ⟨e', n, he', hf'⟩
        obtain rfl := he.unique he'
        exact ⟨n, hf.unique hf'⟩
    · constructor
      · rintro rfl
        exact ⟨e, he, hf⟩
      · rintro ⟨e', he', hf'⟩
        obtain rfl := he.unique he'
        exact hf.unique hf'

/-- Two conditions, the second of which leads to itself. -/
def revolving : Graph :=
  let question := Payload.condition ⟨"", .band, .equals, .text "late"⟩
  let ways := [⟨"again", none⟩, ⟨"again", none⟩]
  ⟨[⟨"start", none, question, ways⟩, ⟨"again", none, question, ways⟩]⟩

/-- The chain comes to the second condition again with every step. -/
theorem outcome_is_fate_revolving : revolving.outcome .blank = .cycle := by
  have he : revolving.entry? = some revolving.nodes[0] := by decide
  have hone : revolving.stage .blank revolving.nodes[0] 1 = some revolving.nodes[1] := by decide
  have htwo : revolving.stage .blank revolving.nodes[0] 2 = some revolving.nodes[1] := by decide
  exact ((outcome_is_fate revolving .blank).2.1 _ (entry?_eq_some_iff.1 he)).2.1 .endless
    (.endless (endless_of_repeat Nat.one_lt_two hone htwo))

end Graph

end Dunning
