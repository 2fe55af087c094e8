import Dunning.Proofs.Graph.Image
import Dunning.Proofs.Graph.Reload

/-!
# Proofs/Graph/KeptOutcome — what a kept strategy recommends

Keeping a graph and reading it again settles its numbers and changes nothing else, so every account
walks the same way as before.  Of all numbers only the duration of a timer is part of a
recommendation:

    "Wait inf days"   ──  kept as `null`, read as NaN  ──▸   "Wait NaN days"

so the recommendation stays the same unless the walk ends at a timer of infinite duration, which a
form can hold as text (`Graph.kept_outcome_eq_iff`).
-/

namespace Dunning

open Decimal

/-! ## The text of a number -/

/-- The text of an infinity is not that of NaN. -/
theorem Decimal.write_of_isInf (l : Layout) {x : Float} (h : x.isInf = true) :
    l.write x = "inf" ∨ l.write x = "-inf" := by
  rw [Layout.write, not_isNaN_of_isInf h, h]
  by_cases hneg : isNegative x
  · exact .inr (by simp [hneg])
  · exact .inl (by simp [hneg])

theorem Decimal.write_nan (l : Layout) : l.write nan = "NaN" := by
  rw [Layout.write, isNaN_nan, if_pos rfl]

/-! ## Payloads -/

theorem Node.settled_condition? (n : Node) : n.settled.condition? = n.condition? := by
  rw [condition?, condition?, settled]
  cases n.payload <;> rfl

namespace Outcome

/-- The text of a timer tells an infinity from NaN. -/
theorem ofPayload_settled_timer_eq_iff (t : Timer) :
    ofPayload (.timer t.settled) = ofPayload (.timer t) ↔ t.duration.isInf = false := by
  constructor
  · intro h
    cases hinf : t.duration.isInf with
    | false => rfl
    | true =>
      have htext := congrArg Outcome.action h
      simp only [ofPayload, Timer.settled, settle, hinf, if_true, write_nan] at htext
      have hlist := congrArg String.toList htext
      rcases write_of_isInf .plain hinf with hw | hw
      · simp [hw] at hlist
      · simp [hw] at hlist
  · intro h
    rw [Timer.settled, settle_eq_self_iff.2 h]

/-- **Only the text of a timer changes**, and only if its duration is infinite. -/
theorem ofPayload_settled_eq_iff (p : Payload) :
    ofPayload p.settled = ofPayload p ↔ ∀ t, p = .timer t → t.duration.isInf = false := by
  cases p with
  | timer t =>
    rw [Payload.settled, ofPayload_settled_timer_eq_iff]
    exact ⟨fun h _ ht => Payload.timer.inj ht ▸ h, fun h => h t rfl⟩
  | condition _ | action _ | escalation _ | ending _ | unknown _ _ =>
    refine iff_of_true rfl fun t ht => ?_
    cases ht

theorem ofPayload_settled_priority (p : Payload) :
    (ofPayload p.settled).priority = (ofPayload p).priority := by
  cases p <;> rfl

end Outcome

/-! ## Walks -/

namespace Graph

variable {g : Graph} {a : Account} {m n : Node} {visited : List String} {w : Walk}

theorem walk?_settled (g : Graph) (a : Account) :
    g.settled.walk? a = (g.walk? a).map (Walk.map Node.settled) :=
  walk?_map (f := Node.settled) (fun _ => rfl) (fun _ => rfl) g a fun m _ => m.settled_condition?

/-- A walk that visits a node which is no condition ends there. -/
theorem Course.arrival_of_mem (h : Course g a visited n w) (hm : m ∈ w.trail)
    (hc : m.condition? = none) : w.arrival = .terminal m := by
  induction h with
  | cycle => cases hm
  | terminal =>
    obtain rfl := List.mem_singleton.1 hm
    rfl
  | stranded _ hcond =>
    obtain rfl := List.mem_singleton.1 hm
    cases hcond.symm.trans hc
  | follow _ hcond _ _ ih =>
    rcases List.mem_cons.1 hm with rfl | hm
    · cases hcond.symm.trans hc
    · exact ih hm

/-- The end of a walk, carried over by settling, recommends the same unless it is a timer of
infinite duration. -/
theorem Course.settled_outcome_eq_iff (h : Course g a visited n w) :
    (w.map Node.settled).arrival.outcome = w.arrival.outcome ↔
      ∀ m ∈ w.trail, ∀ t, m.payload = .timer t → t.duration.isInf = false := by
  have htimer : ∀ m ∈ w.trail, ∀ t, m.payload = .timer t → w.arrival = .terminal m := by
    intro m hm t ht
    exact h.arrival_of_mem hm (by rw [Node.condition?, ht])
  rcases h.ends with ⟨before, l, ht, -, ha⟩ | ⟨-, l, c, -, -, -, ha⟩ | ⟨l, ha⟩
  · have hl : l ∈ w.trail := by rw [ht]; simp
    rw [Walk.map, ha]
    show Outcome.ofPayload l.payload.settled = Outcome.ofPayload l.payload ↔ _
    rw [Outcome.ofPayload_settled_eq_iff]
    refine ⟨fun hall m hm t hp => ?_, fun hall t hp => hall l hl t hp⟩
    obtain rfl : l = m := by simpa [ha] using htimer m hm t hp
    exact hall t hp
  · rw [Walk.map, ha]
    refine iff_of_true rfl fun m hm t hp => ?_
    cases ha.symm.trans (htimer m hm t hp)
  · rw [Walk.map, ha]
    refine iff_of_true rfl fun m hm t hp => ?_
    cases ha.symm.trans (htimer m hm t hp)

/-- **A strategy that is kept recommends the same**, with the same priority in any case, if and only
if the walk does not come to a timer of infinite duration. -/
theorem kept_outcome_eq_iff (h : g.Accepted) (a : Account) :
    ∃ g', shape .value g.toJson.toTree = .ok g' ∧
      (g'.outcome a).priority = (g.outcome a).priority ∧
      (g'.outcome a = g.outcome a ↔
        ∀ n ∈ g.trail a, ∀ t, n.payload = .timer t → t.duration.isInf = false) := by
  refine ⟨g.settled, shape_toJson h.sound .value, ?_⟩
  cases he : g.entry? with
  | none =>
    have hw : g.walk? a = none := by rw [walk?, he, Option.map_none]
    have hs : g.settled.walk? a = none := by rw [walk?_settled, hw, Option.map_none]
    rw [outcome, hs, outcome, hw, trail_of_no_entry he]
    exact ⟨rfl, iff_of_true rfl fun n hn => absurd hn List.not_mem_nil⟩
  | some e =>
    obtain ⟨w, hw, hcourse⟩ := course_of_entry (entry?_eq_some_iff.1 he) a
    have hs : g.settled.walk? a = some (w.map Node.settled) := by
      rw [walk?_settled, hw, Option.map_some]
    rw [outcome_of_walk? hs, outcome_of_walk? hw, trail_of_walk? hw]
    refine ⟨?_, hcourse.settled_outcome_eq_iff⟩
    rw [Walk.map]
    cases w.arrival with
    | terminal l => exact Outcome.ofPayload_settled_priority l.payload
    | stranded _ | cycle _ => rfl

/-- The wait that never ends is visited first, so keeping it changes what is recommended. -/
theorem kept_outcome_eq_iff_everlasting :
    ∃ g', shape .value everlasting.toJson.toTree = .ok g' ∧
      g'.outcome .blank ≠ everlasting.outcome .blank := by
  obtain ⟨g', hg', -, hiff⟩ := kept_outcome_eq_iff everlasting_accepted .blank
  have hmem : everlasting.nodes[0] ∈ everlasting.trail .blank := by decide +kernel
  refine ⟨g', hg', fun heq => ?_⟩
  have hinf := hiff.1 heq _ hmem _ rfl
  exact absurd hinf (by decide)

/-- **Keeping a strategy can change its recommendation.** -/
theorem everlasting_outcome_changes :
    everlasting.Accepted ∧ shape .value everlasting.toJson.toTree = .ok everlasting.settled ∧
      everlasting.outcome .blank = ⟨"Wait inf days", 3⟩ ∧
      everlasting.settled.outcome .blank = ⟨"Wait NaN days", 3⟩ :=
  ⟨everlasting_accepted, shape_toJson everlasting_accepted.sound .value, by decide +kernel,
    by decide +kernel⟩

end Graph

end Dunning
