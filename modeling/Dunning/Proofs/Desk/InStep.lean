import Mathlib.Data.List.Induction
import Dunning.Proofs.Desk.Call
import Dunning.Proofs.Strategy.Sight

/-!
# Proofs/Desk/InStep — the queue follows the active strategy

While the store is in reach, a desk is *in step*: every account of its queue carries what the active
strategy recommends for that account.  A call keeps this for one of two reasons.  Either it applies
the strategy that is active afterwards, whose recommendation does not depend on what was recommended
before; or it leaves the queue alone, and then it does not change which strategy is active.
-/

namespace Dunning

namespace Desk

variable {d : Desk}

/-- Each account of the queue carries what the active strategy recommends for it. -/
def InStep (d : Desk) : Prop := ∀ a ∈ d.queue, a.Carries (d.activeStrategy.1.evaluate a)

/-- A queue that is in step is its input fields, with the active strategy applied to them. -/
theorem InStep.queue_eq (h : d.InStep) :
    d.queue = d.activeStrategy.1.reapply (d.queue.map Account.inputs) := by
  have hself : ∀ a ∈ d.queue, (d.activeStrategy.1.refresh ∘ Account.inputs) a = id a := by
    intro a ha
    have he : d.activeStrategy.1.evaluate a.inputs = d.activeStrategy.1.evaluate a :=
      Strategy.evaluate_congr a.inputs_alike _
    rw [Function.comp_apply, Strategy.refresh, he]
    exact (h a ha).eq.symm
  rw [Strategy.reapply, List.map_map, List.map_congr_left hself, List.map_id]

/-! ## One call -/

theorem inStep_opened (rules : RuleSet) : (opened rules).InStep :=
  fun _ ha => absurd ha List.not_mem_nil

theorem withQueue_activeStrategy (accounts : List Account) :
    (d.withQueue accounts).activeStrategy = d.activeStrategy := rfl

/-- Applying the active strategy brings any queue in step. -/
theorem inStep_withQueue (d : Desk) (accounts : List Account) : (d.withQueue accounts).InStep := by
  intro a ha
  obtain ⟨b, -, rfl⟩ := List.mem_map.1 ha
  rw [withQueue_activeStrategy, Strategy.evaluate_refresh]
  exact b.carries_withEvaluation _

/-- **A call that leaves the queue alone leaves alone which strategy is active.** -/
theorem activeStrategy_of_accounts?_eq_none {c : Call} (hu : ¬ c.Unknown d.library)
    (ha : c.accounts? d = none) :
    (d.withLibrary (c.library d.library)).activeStrategy = d.activeStrategy := by
  have hactive : (c.library d.library).active? = d.library.active? := by
    cases c with
    | load | apply | deactivate => cases ha
    | importUpdates => rfl
    | save who now draft =>
      refine Library.active?_save ?_
      simpa [Call.accounts?] using ha
    | activate who now id =>
      have hn : d.library.get? id = none := by simpa [Call.accounts?] using ha
      exact absurd hn hu
  simp only [activeStrategy, withLibrary, hactive]

theorem InStep.settled {c : Call} (h : d.InStep) (hu : ¬ c.Unknown d.library) :
    (d.settled c).InStep := by
  unfold Desk.settled
  cases ha : c.accounts? d with
  | some accounts => exact inStep_withQueue _ accounts
  | none =>
    intro a hmem
    rw [activeStrategy_of_accounts?_eq_none hu ha]
    exact h a hmem

/-- While the store is in reach a call is carried out, unless the library refuses it.  Then it
changes nothing. -/
theorem run_clear (d : Desk) (c : Call) :
    (c.Unknown d.library ∧ ∃ fault, d.run .clear c = (.error (.library fault), d)) ∨
    (¬ c.Unknown d.library ∧ ∃ answer, d.run .clear c = (.ok answer, d.settled c)) := by
  have he := d.run_ends .clear c
  generalize d.run .clear c = reply at he
  cases he with
  | refused hu => exact .inl ⟨hu, _, rfl⟩
  | stopped hb => simp [Call.Blocked, Outage.clear] at hb
  | done hu _ => exact .inr ⟨hu, _, rfl⟩

theorem InStep.run (h : d.InStep) (c : Call) : (d.run .clear c).2.InStep := by
  rcases d.run_clear c with ⟨-, fault, hr⟩ | ⟨hu, answer, hr⟩ <;> rw [hr]
  · exact h
  · exact h.settled hu

theorem settled_rules (d : Desk) (c : Call) : (d.settled c).rules = d.rules := by
  unfold settled
  cases c.accounts? d <;> rfl

theorem run_clear_rules (d : Desk) (c : Call) : (d.run .clear c).2.rules = d.rules := by
  rcases d.run_clear c with ⟨-, fault, hr⟩ | ⟨-, answer, hr⟩ <;> rw [hr]
  exact d.settled_rules c

/-! ## A run of calls -/

/-- A desk, opened with some rules, after a run of calls during which the store is in reach. -/
def after (rules : RuleSet) (calls : List Call) : Desk :=
  calls.foldl (fun d c => (d.run .clear c).2) (opened rules)

theorem after_concat (rules : RuleSet) (calls : List Call) (c : Call) :
    after rules (calls ++ [c]) = ((after rules calls).run .clear c).2 := by
  simp [after]

theorem after_rules (rules : RuleSet) (calls : List Call) : (after rules calls).rules = rules := by
  induction calls using List.reverseRecOn with
  | nil => rfl
  | append_singleton calls c ih => rw [after_concat, run_clear_rules, ih]

theorem inStep_after (rules : RuleSet) (calls : List Call) : (after rules calls).InStep := by
  induction calls using List.reverseRecOn with
  | nil => exact inStep_opened rules
  | append_singleton calls c ih => rw [after_concat]; exact ih.run c

/-- **The queue is in step after every run**: the active strategy, which is the active graph or the
rules the desk was opened with, has the last word on every account.  So the input fields and the
active strategy determine the queue, whatever happened on the way. -/
theorem queue_follows_strategy (rules rules' : RuleSet) (calls calls' : List Call) :
    (after rules calls).rules = rules ∧
      (∀ a ∈ (after rules calls).queue,
        a.Carries ((after rules calls).activeStrategy.1.evaluate a)) ∧
      ((after rules calls).activeStrategy.1 = (after rules' calls').activeStrategy.1 →
        (after rules calls).queue.map Account.inputs =
          (after rules' calls').queue.map Account.inputs →
        (after rules calls).queue = (after rules' calls').queue) := by
  refine ⟨after_rules rules calls, inStep_after rules calls, fun hs hi => ?_⟩
  rw [(inStep_after rules calls).queue_eq, (inStep_after rules' calls').queue_eq, hs, hi]

/-- Two runs that put the same account in the queue.  In the first a graph is active for a while. -/
theorem queue_follows_strategy_detour :
    (after .standard [.load "author" [.blank], .save "author" ⟨0⟩ ⟨some "late", "", "", .empty, ""⟩,
        .activate "author" ⟨1⟩ "late", .deactivate "author" ⟨2⟩]).queue =
      (after .standard [.load "author" [.blank]]).queue :=
  (queue_follows_strategy .standard .standard _ _).2.2 rfl rfl

end Desk

end Dunning
