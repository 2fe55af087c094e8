import Dunning.Proofs.Graph.Editing

/-!
# Proofs/Graph/Place — a node placed on the canvas

A placed node comes last and leads nowhere, and no node had its id.  So the entry stays the entry,
and every step from one node to another is taken as before.  But a connection may have led to the
new id when there was no node under it, for a free id is one that no node has:

    before    e ─▸ n₁ ─▸ n₂ ─▸ "block_4"       No next action
    after     e ─▸ n₁ ─▸ n₂ ─▸ block_4         phone - New Action

Accounts that came to the end of this connection now get what the new node recommends, and all
others get what they got before (`Graph.outcome_of_place`).
-/

namespace Dunning

namespace Graph

variable {g : Graph} {a : Account} {e l m n p : Node} {id : String} {k : Nat} {type : NodeType}

/-! ## One node more -/

theorem node?_push (g : Graph) (p : Node) (id : String) :
    (g.push p).node? id = (g.node? id).or ([p].find? fun n => n.id == id) := by
  rw [node?, push, List.find?_append, node?]

/-- What was found is found again. -/
theorem node?_push_of_some (h : g.node? id = some n) : (g.push p).node? id = some n := by
  rw [node?_push, h, Option.some_or]

theorem node?_push_of_ne (h : p.id ≠ id) : (g.push p).node? id = g.node? id := by
  rw [node?_push, List.find?_singleton, if_neg (by simpa using h), Option.or_none]

/-- Under an id that no node had, the new node is found. -/
theorem node?_push_self (h : p.id ∉ g.ids) : (g.push p).node? p.id = some p := by
  have hnone : g.node? p.id = none := by simpa using node?_isNone_iff.2 h
  rw [node?_push, hnone, Option.none_or, List.find?_singleton, if_pos (beq_self_eq_true p.id)]

/-- **A node that comes last and leads nowhere leaves the entry as it is.** -/
theorem entry?_push (hp : p.connections = []) (he : g.entry? = some e) :
    entry? (g.push p) = some e := by
  have htargets : (g.push p).targets = g.targets := by simp [targets, push, hp]
  rw [entry?_eq_find?] at he ⊢
  rw [htargets, push, List.find?_append, he, Option.some_or]

/-! ## Steps -/

theorem onward?_push_of_some (h : g.onward? a m = some l) : (g.push p).onward? a m = some l := by
  rw [onward?_eq_bind] at h ⊢
  obtain ⟨id, hway, hnode⟩ := Option.bind_eq_some_iff.1 h
  rw [hway, Option.bind_some, node?_push_of_some hnode]

/-- A step changes only if it led to the new id. -/
theorem onward?_push_of_ne (h : m.way? a ≠ some p.id) :
    (g.push p).onward? a m = g.onward? a m := by
  rw [onward?_eq_bind, onward?_eq_bind]
  cases hway : m.way? a with
  | none => rfl
  | some id =>
    have hne : p.id ≠ id := fun hid => h (hway.trans (congrArg some hid.symm))
    exact node?_push_of_ne hne

theorem stage_push (h : g.stage a e k = some m) : (g.push p).stage a e k = some m := by
  induction k generalizing m with
  | zero => exact h
  | succ k ih =>
    obtain ⟨l, hl, hm⟩ := Option.bind_eq_some_iff.1 h
    rw [stage, ih hl, Option.bind_some, onward?_push_of_some hm]

/-! ## Outcomes -/

/-- At a condition that leads to no node the chain strands. -/
theorem hasFate_strands (hs : g.stage a e k = some m) (hway : m.way? a = some id)
    (hid : id ∉ g.ids) : g.HasFate a e (.strands m) := by
  obtain ⟨c, hc, -⟩ := Option.bind_eq_some_iff.1 hway
  have hnone : g.node? id = none := by simpa using node?_isNone_iff.2 hid
  refine .strands hs hc ?_
  rw [← onward?_of_condition hc, onward?_eq_bind, hway, Option.bind_some, hnone]

/-- A chain that comes to a node without connections has the outcome of its payload. -/
theorem outcome_of_unconnected (he : g.IsEntry e) (hs : g.stage a e k = some n)
    (hn : n.connections = []) : g.outcome a = .ofPayload n.payload := by
  cases hc : n.condition? with
  | none => exact outcome_of_fate he (.ends hs hc)
  | some c =>
    have hnext : g.next? n (c.holds a) = none := by
      rw [next?, hn]
      rfl
    rw [outcome_of_fate he (.strands hs hc hnext), Node.condition?_eq_some_iff.1 hc]
    rfl

theorem outcome_push_of_ne (hp : p.connections = []) (he : g.entry? = some e)
    (h : ∀ m ∈ g.trail a, m.way? a ≠ some p.id) : (g.push p).outcome a = g.outcome a := by
  have hentry : entry? (g.push p) = g.entry? := (entry?_push hp he).trans he.symm
  rw [outcome, walk?_eq_of_steps hentry fun m hm => onward?_push_of_ne (h m hm), outcome]

/-- **An account that came to the end of a connection to the new id goes on to the new node.** -/
theorem outcome_push_of_way (hp : p.connections = []) (hid : p.id ∉ g.ids)
    (he : g.entry? = some e) (hm : m ∈ g.trail a) (hway : m.way? a = some p.id) :
    g.outcome a = .noNext ∧ (g.push p).outcome a = .ofPayload p.payload := by
  obtain ⟨k, hk⟩ := exists_stage_of_mem_trail he hm
  have hnext : (g.push p).stage a e (k + 1) = some p := by
    rw [stage_succ_of_some (stage_push hk), onward?_eq_bind, hway, Option.bind_some,
      node?_push_self hid]
  constructor
  · exact outcome_of_fate (entry?_eq_some_iff.1 he) (hasFate_strands hk hway hid)
  · exact outcome_of_unconnected (entry?_eq_some_iff.1 (entry?_push hp he)) hnext hp

/-- Of the payloads that a new node starts with, only that of a condition recommends nothing. -/
theorem ofPayload_initial_eq_noNext_iff :
    Outcome.ofPayload (.initial type) = .noNext ↔ type = .condition := by
  cases type with
  | condition => exact iff_of_true rfl rfl
  | action | timer | escalation | ending =>
    exact iff_of_false (by decide +kernel) (by decide)

/-- **Placing a node changes no recommendation**, except where an account has come to the end of a
connection whose target is the id that the node gets.  Such an account had no next action, and now
gets what the node starts with, which is no next action again if it is a condition. -/
theorem outcome_of_place (he : g.entry?.isSome) (type : NodeType) (position : Option Position)
    (a : Account) :
    ((∀ n ∈ g.trail a, n.way? a ≠ some g.freshId) →
        (g.place type position).outcome a = g.outcome a) ∧
      ((∃ n ∈ g.trail a, n.way? a = some g.freshId) →
        g.outcome a = .noNext ∧ (g.place type position).outcome a = .ofPayload (.initial type)) ∧
      ((g.place type position).outcome a = g.outcome a ↔
        type = .condition ∨ ∀ n ∈ g.trail a, n.way? a ≠ some g.freshId) := by
  obtain ⟨e, he⟩ := Option.isSome_iff_exists.1 he
  have hspared : (∀ n ∈ g.trail a, n.way? a ≠ some g.freshId) →
      (g.place type position).outcome a = g.outcome a :=
    outcome_push_of_ne (p := ⟨g.freshId, position, .initial type, []⟩) rfl he
  have hcaught : (∃ n ∈ g.trail a, n.way? a = some g.freshId) →
      g.outcome a = .noNext ∧ (g.place type position).outcome a = .ofPayload (.initial type) := by
    rintro ⟨n, hn, hway⟩
    exact outcome_push_of_way (p := ⟨g.freshId, position, .initial type, []⟩) rfl
      g.freshId_notMem he hn hway
  refine ⟨hspared, hcaught, ?_⟩
  by_cases hany : ∃ n ∈ g.trail a, n.way? a = some g.freshId
  · obtain ⟨hbefore, hafter⟩ := hcaught hany
    have hnot : ¬ ∀ n ∈ g.trail a, n.way? a ≠ some g.freshId := by simpa using hany
    rw [hbefore, hafter, ofPayload_initial_eq_noNext_iff, or_iff_left hnot]
  · have hall : ∀ n ∈ g.trail a, n.way? a ≠ some g.freshId := by simpa using hany
    exact iff_of_true (hspared hall) (.inr hall)

/-- A condition one connection of which leads to an id that no node has yet. -/
def expectant : Graph :=
  ⟨[question "ask" "block_3" "close", ⟨"close", none, .ending ⟨"", "closed", ""⟩, []⟩]⟩

/-- Late accounts get the new action, all others what they got before. -/
theorem outcome_of_place_expectant :
    (expectant.place .action none).outcome { Account.blank with band := some "late" } =
        ⟨"phone - New Action", 5⟩ ∧
      (expectant.place .action none).outcome .blank = ⟨"End: closed", 1⟩ := by
  have he : expectant.entry?.isSome := by decide
  have hlate := (outcome_of_place he .action none { Account.blank with band := some "late" }).2.1
  have hother := (outcome_of_place he .action none .blank).1
  constructor
  · rw [(hlate (by decide +kernel)).2]
    rfl
  · rw [hother (by decide +kernel)]
    decide +kernel

/-- **Placing a node can change a recommendation.** -/
theorem placing_changes_outcome :
    expectant.entry?.isSome ∧
      expectant.outcome { Account.blank with band := some "late" } = .noNext ∧
      (expectant.place .action none).outcome { Account.blank with band := some "late" } =
        ⟨"phone - New Action", 5⟩ :=
  ⟨by decide, by decide +kernel, by decide +kernel⟩

end Graph

end Dunning
