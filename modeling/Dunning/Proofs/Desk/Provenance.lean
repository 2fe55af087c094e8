import Dunning.Proofs.Desk.InStep
import Dunning.Proofs.Desk.Report

/-!
# Proofs/Desk/Provenance — where the queue comes from when the store fails

While the store may fail, the queue need not follow the active strategy: a call may switch the
strategy and then fail to apply it.  But it never is a mixture.  All of it comes from the strategy
that was active when the queue was replaced last (`Desk.lastApplied`):

    attempt          load ✓      activate g ✗    import ✗      apply ✓
    active           rules       graph g         graph g       graph g
    last applied     rules       rules           rules         graph g

Each attempt either replaces the whole queue, with what the strategy then active recommends, or
leaves all of it as it is (`Desk.Stores`).
-/

namespace Dunning

/-- A call, and what of the store is out of reach meanwhile. -/
structure Attempt where
  outage : Outage
  call : Call

/-- What the library refuses comes to no accounts. -/
theorem Call.accounts?_of_unknown {c : Call} {d : Desk} (h : c.Unknown d.library) :
    c.accounts? d = none := by
  cases c with
  | activate who now id =>
    have hn : d.library.get? id = none := h
    simp [accounts?, hn]
  | _ => exact h.elim

namespace Desk

/-- The desk after an attempt. -/
def attempt (d : Desk) (x : Attempt) : Desk := (d.run x.outage x.call).2

/-- The desk after a run of attempts. -/
def attemptAll (d : Desk) (xs : List Attempt) : Desk := xs.foldl attempt d

/-- An attempt replaces the queue: the call comes to that, and nothing is in its way. -/
def Stores (d : Desk) (x : Attempt) : Prop :=
  (x.call.accounts? d).isSome ∧ ¬ x.call.Blocked x.outage d

instance (d : Desk) (x : Attempt) : Decidable (d.Stores x) :=
  inferInstanceAs (Decidable (_ ∧ ¬ (_ ∧ _ ∨ _ ∧ _)))

/-- The strategy applied to the queue last after a run of attempts, `s` being the one before it. -/
def lastApplied (d : Desk) (s : Strategy) : List Attempt → Strategy
  | [] => s
  | x :: xs =>
    (d.attempt x).lastApplied (if d.Stores x then (d.attempt x).activeStrategy.1 else s) xs

/-- No attempt of a run replaces the queue. -/
def Idle (d : Desk) : List Attempt → Prop
  | [] => True
  | x :: xs => ¬ d.Stores x ∧ (d.attempt x).Idle xs

/-- Each account of the queue carries what a strategy recommends for it. -/
def From (d : Desk) (s : Strategy) : Prop := ∀ a ∈ d.queue, a.Carries (s.evaluate a)

variable {d : Desk} {s : Strategy} {x : Attempt} {xs : List Attempt} {answer : Answer}
  {report : Report}

/-! ## One attempt -/

/-- **What an attempt does to the queue**: it stores, and then the strategy that is active after it
has been applied to all accounts; or it leaves the queue as it is. -/
theorem attempt_cases (d : Desk) (x : Attempt) :
    (d.Stores x ∧ ∃ accounts, x.call.accounts? d = some accounts ∧
      d.attempt x = (d.withLibrary (x.call.library d.library)).withQueue accounts) ∨
    (¬ d.Stores x ∧ ∃ l, d.attempt x = d.withLibrary l) := by
  have he := d.run_ends x.outage x.call
  simp only [attempt]
  generalize d.run x.outage x.call = reply at he
  cases he with
  | refused hu =>
    have hnone := Call.accounts?_of_unknown hu
    exact .inr ⟨fun h => by simp [Stores, hnone] at h, d.library, rfl⟩
  | stopped hb => exact .inr ⟨fun h => h.2 hb, _, rfl⟩
  | done hu hb =>
    cases ha : x.call.accounts? d with
    | some accounts =>
      exact .inl ⟨⟨by rw [ha]; rfl, hb⟩, accounts, rfl, by simp only [settled, ha]⟩
    | none =>
      exact .inr ⟨fun h => by simp [Stores, ha] at h, x.call.library d.library,
        by simp only [settled, ha]⟩

theorem attempt_rules (d : Desk) (x : Attempt) : (d.attempt x).rules = d.rules := by
  obtain ⟨-, accounts, -, he⟩ | ⟨-, l, he⟩ := d.attempt_cases x <;> rw [he] <;> rfl

theorem From.attempt (h : d.From s) (x : Attempt) :
    (d.attempt x).From (if d.Stores x then (d.attempt x).activeStrategy.1 else s) := by
  obtain ⟨hstores, accounts, -, he⟩ | ⟨hkeeps, l, he⟩ := d.attempt_cases x
  · rw [if_pos hstores, he]
    exact inStep_withQueue _ accounts
  · rw [if_neg hkeeps, he]
    exact h

/-- **An attempt that reports** stores, and names the strategy that is active after it. -/
theorem stores_of_report (h : (d.run x.outage x.call).1 = .ok answer)
    (hr : answer.report? = some report) : d.Stores x ∧
      report.strategy = (d.attempt x).activeStrategy.1.label ∧
      report.strategyId = (d.attempt x).activeStrategy.2 := by
  obtain ⟨accounts, ha, rfl⟩ := report_of_run h hr
  have hstores : d.Stores x := ⟨by rw [ha]; rfl, not_blocked_of_ok h⟩
  obtain ⟨-, accounts', -, he⟩ | ⟨hkeeps, -⟩ := d.attempt_cases x
  · rw [he, withQueue_activeStrategy]
    exact ⟨hstores, rfl, rfl⟩
  · exact absurd hstores hkeeps

/-! ## A run of attempts -/

theorem From.attemptAll (h : d.From s) : (d.attemptAll xs).From (d.lastApplied s xs) := by
  induction xs generalizing d s with
  | nil => exact h
  | cons x xs ih => exact ih (h.attempt x)

/-- **The strategy applied last was active when the queue was replaced last.** -/
theorem lastApplied_cases (d : Desk) (s : Strategy) (xs : List Attempt) :
    (d.Idle xs ∧ d.lastApplied s xs = s) ∨
    ∃ before x rest, xs = before ++ x :: rest ∧ (d.attemptAll before).Stores x ∧
      (d.attemptAll (before ++ [x])).Idle rest ∧
      d.lastApplied s xs = (d.attemptAll (before ++ [x])).activeStrategy.1 := by
  induction xs generalizing d s with
  | nil => exact .inl ⟨trivial, rfl⟩
  | cons x xs ih =>
    rw [lastApplied]
    rcases ih (d.attempt x) (if d.Stores x then (d.attempt x).activeStrategy.1 else s) with
      ⟨hidle, he⟩ | ⟨before, y, rest, rfl, hy, hidle, he⟩
    · rw [he]
      by_cases hx : d.Stores x
      · rw [if_pos hx]
        exact .inr ⟨[], x, xs, rfl, hx, hidle, rfl⟩
      · rw [if_neg hx]
        exact .inl ⟨⟨hx, hidle⟩, rfl⟩
    · exact .inr ⟨x :: before, y, rest, rfl, hy, hidle, he⟩

theorem lastApplied_concat (d : Desk) (s : Strategy) (xs : List Attempt) (x : Attempt) :
    d.lastApplied s (xs ++ [x]) =
      if (d.attemptAll xs).Stores x then ((d.attemptAll xs).attempt x).activeStrategy.1
      else d.lastApplied s xs := by
  induction xs generalizing d s with
  | nil => rfl
  | cons y xs ih => exact ih _ _

theorem attemptAll_rules (d : Desk) (xs : List Attempt) : (d.attemptAll xs).rules = d.rules := by
  induction xs generalizing d with
  | nil => rfl
  | cons x xs ih => exact (ih (d.attempt x)).trans (d.attempt_rules x)

/-- **The queue never is a mixture**, whatever fails.  One strategy has the last word on every
account: the rules while no attempt has stored, else the strategy that was active after the last
attempt that did.  An attempt that reports makes it the strategy active now, and names that one. -/
theorem queue_of_one_strategy (rules : RuleSet) (attempts : List Attempt) :
    let d := (opened rules).attemptAll attempts
    let s := (opened rules).lastApplied (.rules rules) attempts
    d.rules = rules ∧
      (∀ a ∈ d.queue, a.Carries (s.evaluate a)) ∧
      (∀ a ∈ d.queue, a.scale = some s.scale) ∧
      (((opened rules).Idle attempts ∧ s = .rules rules) ∨
        ∃ before x rest, attempts = before ++ x :: rest ∧
          ((opened rules).attemptAll before).Stores x ∧
          ((opened rules).attemptAll (before ++ [x])).Idle rest ∧
          s = ((opened rules).attemptAll (before ++ [x])).activeStrategy.1) ∧
      ∀ x answer report, (d.run x.outage x.call).1 = .ok answer →
        answer.report? = some report →
        (opened rules).lastApplied (.rules rules) (attempts ++ [x]) =
            (d.attempt x).activeStrategy.1 ∧
          report.strategy = (d.attempt x).activeStrategy.1.label ∧
          report.strategyId = (d.attempt x).activeStrategy.2 := by
  intro d s
  have hfrom : d.From s := From.attemptAll fun a ha => absurd ha List.not_mem_nil
  refine ⟨attemptAll_rules (opened rules) attempts, hfrom, fun a ha => ?_,
    lastApplied_cases (opened rules) (.rules rules) attempts, ?_⟩
  · rw [(hfrom a ha).scale, Strategy.evaluate_scale]
  · intro x answer report h hr
    obtain ⟨hstores, hnames⟩ := stores_of_report h hr
    rw [lastApplied_concat, if_pos hstores]
    exact ⟨rfl, hnames⟩

/-- Attempts of which the last fails: it makes a graph active, and cannot read the queue. -/
def interrupted : List Attempt :=
  [⟨.clear, .load "author" [.blank]⟩,
    ⟨.clear, .save "author" ⟨0⟩ ⟨some "late", "", "", .empty, ""⟩⟩,
    ⟨⟨true, false⟩, .activate "author" ⟨1⟩ "late"⟩]

/-- The queue keeps what the rules recommended, until an attempt reports that the
graph is applied. -/
theorem queue_of_one_strategy_interrupted :
    ((opened .standard).attemptAll interrupted).activeStrategy = (.graph .empty, some "late") ∧
      (∀ a ∈ ((opened .standard).attemptAll interrupted).queue, a.scale = some .lowerIsUrgent) ∧
      (opened .standard).lastApplied (.rules .standard)
        (interrupted ++ [⟨.clear, .apply "author"⟩]) = .graph .empty := by
  obtain ⟨-, -, hscale, -, hreport⟩ := queue_of_one_strategy .standard interrupted
  exact ⟨rfl, hscale, (hreport ⟨.clear, .apply "author"⟩ _ _ rfl rfl).1⟩

end Desk

end Dunning
