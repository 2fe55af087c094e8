import Dunning.Proofs.Desk.Call

/-!
# Proofs/Desk/Report — what a call reports

A call that applies the active strategy reports which one that was and what it did
(`Desk.report_of_run`).  A save does not report, even if it applies a new version of the active
graph; an import reports only if it has something to apply.
-/

namespace Dunning

/-- The report in an answer, if there is one. -/
def Answer.report? : Answer → Option Report
  | .applied report => some report
  | .imported summary => summary.reevaluation
  | .saved _ => none
  | .activated _ report => some report

/-- Who makes a call. -/
def Call.triggeredBy : Call → String
  | .load who _ | .apply who | .importUpdates who _ | .save who _ _ | .activate who _ _
  | .deactivate who _ => who

namespace Desk

variable {d : Desk} {o : Outage} {c : Call} {who : String} {accounts : List Account}
  {answer : Answer} {report : Report}

/-- What is reported of applying the active strategy to accounts. -/
def reportOn (d : Desk) (who : String) (accounts : List Account) : Report :=
  ⟨d.activeStrategy.1.label, d.activeStrategy.2, d.activeStrategy.1.tally accounts, who⟩

/-- While the store is in reach, accounts are stored and reported on. -/
theorem store_clear (d : Desk) (who : String) (accounts : List Account) :
    d.store .clear who accounts = (.ok (d.reportOn who accounts), d.withQueue accounts) := rfl

theorem apply_clear (d : Desk) (who : String) :
    d.apply .clear who = (.ok (d.reportOn who d.queue), d.withQueue d.queue) := rfl

theorem Reply.ok_of_mapAnswer {α β : Type} {f : α → β} {r : Reply α} {b : β}
    (h : (r.mapAnswer f).1 = .ok b) : ∃ a, r.1 = .ok a ∧ f a = b := by
  obtain ⟨answer, d⟩ := r
  cases answer with
  | error fault => cases h
  | ok a => exact ⟨a, rfl, Except.ok.inj h⟩

/-- A call that answers found nothing out of reach. -/
theorem not_blocked_of_ok (h : (d.run o c).1 = .ok answer) : ¬ c.Blocked o d := by
  have he := d.run_ends o c
  generalize d.run o c = reply at h he
  cases he with
  | refused => cases h
  | stopped => cases h
  | done _ hb => exact hb

theorem report_of_store (h : (d.store o who accounts).1 = .ok report) :
    report = d.reportOn who accounts := by
  cases hw : o.writes with
  | true =>
    rw [store_offline who accounts hw] at h
    cases h
  | false => simpa [store, hw, reportOn, eq_comm] using h

theorem report_of_apply (h : (d.apply o who).1 = .ok report) :
    report = d.reportOn who d.queue := by
  rw [apply] at h
  split at h
  · cases h
  · exact report_of_store h

/-- **A report names the strategy that is active after the call**, and tells what applying it to the
accounts of the call did. -/
theorem report_of_run (h : (d.run o c).1 = .ok answer) (hr : answer.report? = some report) :
    ∃ accounts, c.accounts? d = some accounts ∧
      report = (d.withLibrary (c.library d.library)).reportOn c.triggeredBy accounts := by
  cases c with
  | load who accounts =>
    obtain ⟨r, hstore, rfl⟩ := Reply.ok_of_mapAnswer h
    obtain rfl : r = report := Option.some.inj hr
    exact ⟨accounts, rfl, report_of_store hstore⟩
  | apply who =>
    obtain ⟨r, happly, rfl⟩ := Reply.ok_of_mapAnswer h
    obtain rfl : r = report := Option.some.inj hr
    exact ⟨d.queue, rfl, report_of_apply happly⟩
  | importUpdates who updates =>
    cases hreads : o.reads with
    | true => simp [run, importUpdates, hreads, Reply.mapAnswer, Except.map] at h
    | false =>
      by_cases hm : (Update.merge d.queue updates).updated = 0
      · -- nothing to apply, nothing to report
        obtain ⟨summary, himport, rfl⟩ := Reply.ok_of_mapAnswer h
        simp only [importUpdates, hreads, if_neg Bool.false_ne_true, if_pos hm] at himport
        obtain rfl := Except.ok.inj himport
        cases hr
      · rw [run_importUpdates who hreads hm] at h
        obtain ⟨r, hstore, rfl⟩ := Reply.ok_of_mapAnswer h
        obtain rfl : r = report := Option.some.inj hr
        exact ⟨_, by simp [Call.accounts?, hm], report_of_store hstore⟩
  | save who now draft =>
    obtain ⟨saved, -, rfl⟩ := Reply.ok_of_mapAnswer h
    cases hr
  | activate who now id =>
    rcases d.library.activate_cases id now with ⟨-, he⟩ | ⟨before, s, after, he, hid, hb, hok⟩
    · simp [run, activate, he, Reply.mapAnswer, Except.map] at h
    · rw [run_activate who hok] at h
      obtain ⟨r, happly, rfl⟩ := Reply.ok_of_mapAnswer h
      obtain rfl : r = report := Option.some.inj hr
      have hget := Library.get?_split he hid hb
      refine ⟨d.queue, by simp [Call.accounts?, hget], ?_⟩
      simp only [Call.library, hok]
      exact report_of_apply happly
  | deactivate who now =>
    obtain ⟨r, happly, rfl⟩ := Reply.ok_of_mapAnswer h
    obtain rfl : r = report := Option.some.inj hr
    exact ⟨d.queue, rfl, report_of_apply happly⟩

end Desk

end Dunning
