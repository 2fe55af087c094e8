import Dunning.Proofs.Desk.InStep
import Dunning.Proofs.Desk.Report
import Dunning.Proofs.Strategy.Tally

/-!
# Proofs/Desk/Movement — what moves in a queue that is in step, and what is reported of it

    call           accounts that move              fields that move
    apply          none                            none
    updates        those that an update goes to    figures and derived fields
    activate,
    deactivate     those advised otherwise         the advice

A queue in step carries what one strategy recommends.  So applying that strategy again moves nothing
but what has been imported, and applying another leaves the delinquency, in which strategies agree.
In each case the report counts the accounts that move (`Desk.moves_are_reported`).
-/

namespace Dunning

namespace Desk

variable {d : Desk}

/-- Applying the active strategy to a queue that is in step changes nothing. -/
theorem InStep.withQueue_eq (h : d.InStep) : d.withQueue d.queue = d := by
  rw [withQueue, Strategy.reapply_eq_self h]

theorem InStep.apply (h : d.InStep) (who : String) :
    ∃ report, d.run .clear (.apply who) = (.ok (.applied report), d) ∧
      report.tally.changed = 0 := by
  refine ⟨d.reportOn who d.queue, ?_, ?_⟩
  · rw [Desk.run, apply_clear, h.withQueue_eq]
    rfl
  · have hchanged : (d.activeStrategy.1.tally d.queue).changed =
        differing Account.derived d.queue (d.activeStrategy.1.reapply d.queue) :=
      Strategy.tally_changed _ rfl
    rw [reportOn, hchanged, Strategy.reapply_eq_self h, differing]
    simp

/-- **An import moves only the accounts that an update goes to**, and its report counts those that
move. -/
theorem InStep.importUpdates (h : d.InStep) (who : String) (updates : List Update) :
    ∃ summary d', d.run .clear (.importUpdates who updates) = (.ok (.imported summary), d') ∧
      d'.queue.length = d.queue.length ∧
      (∀ i, (∀ u ∈ updates, u.place? d.queue ≠ some i) → d'.queue[i]? = d.queue[i]?) ∧
      (summary.reevaluation = none → d' = d) ∧
      (∀ report, summary.reevaluation = some report →
        report.tally.changed = differing Account.derived d.queue d'.queue) ∧
      differing Account.derived d.queue d'.queue ≤ summary.updated := by
  by_cases hm : (Update.merge d.queue updates).updated = 0
  · have hrun : d.run .clear (.importUpdates who updates) =
        (.ok (.imported ⟨updates.length, (Update.merge d.queue updates).updated,
          (Update.merge d.queue updates).unmatched, none⟩), d) := by
      rw [Desk.run, Desk.importUpdates, if_neg (by decide), if_pos hm]
      rfl
    exact ⟨_, d, hrun, rfl, fun _ _ => rfl, fun _ => rfl, by simp, by simp [differing]⟩
  · have hrun := run_importUpdates (o := .clear) who rfl hm
    rw [store_clear] at hrun
    refine ⟨_, _, hrun, ?_, fun i hi => ?_, by simp, ?_, ?_⟩
    · simp [withQueue, Strategy.reapply, Update.merge_accounts]
    · refine Strategy.getElem?_reapply_merge h (List.filter_eq_nil_iff.2 fun u hu => ?_)
      simpa using hi u hu
    · rintro _ ⟨⟩
      exact Strategy.tally_changed _ (Strategy.map_derived_merge _ _)
    · exact Strategy.differing_reapply_merge_le h updates

/-- **A strategy that takes over redirects a queue that is in step.** -/
theorem InStep.redirects (h : d.InStep) (l : Library) (who : String) :
    Strategy.Redirects ((d.withLibrary l).reportOn who d.queue).tally d.queue
      ((d.withLibrary l).withQueue d.queue).queue :=
  Strategy.tally_redirects _ h

/-- **Queues move only where they must, and the reports say so.**  After any run of calls the queue
is in step.  Applying the active strategy then succeeds and changes nothing.  An import stores every
account that no update goes to as it was, and the accounts whose derived fields it changes are as
many as it reports, and not more than those it has updated.  An activation, unless the library does
not know the id, and a deactivation move no field but the advice, and report how many accounts there
are and in how many it moves. -/
theorem moves_are_reported (rules : RuleSet) (calls : List Call) (who : String) :
    let d := after rules calls
    (∃ report, d.run .clear (.apply who) = (.ok (.applied report), d) ∧
      report.tally.changed = 0) ∧
    (∀ updates, ∃ summary d',
      d.run .clear (.importUpdates who updates) = (.ok (.imported summary), d') ∧
        d'.queue.length = d.queue.length ∧
        (∀ i, (∀ u ∈ updates, u.place? d.queue ≠ some i) → d'.queue[i]? = d.queue[i]?) ∧
        (summary.reevaluation = none → d' = d) ∧
        (∀ report, summary.reevaluation = some report →
          report.tally.changed = differing Account.derived d.queue d'.queue) ∧
        differing Account.derived d.queue d'.queue ≤ summary.updated) ∧
    (∀ now id, (d.library.get? id = none ∧
        ∃ fault, d.run .clear (.activate who now id) = (.error fault, d)) ∨
      ∃ saved report d',
        d.run .clear (.activate who now id) = (.ok (.activated saved report), d') ∧
          Strategy.Redirects report.tally d.queue d'.queue) ∧
    ∀ now, ∃ report d', d.run .clear (.deactivate who now) = (.ok (.applied report), d') ∧
      Strategy.Redirects report.tally d.queue d'.queue := by
  intro d
  have h : d.InStep := inStep_after rules calls
  refine ⟨h.apply who, h.importUpdates who, fun now id => ?_, fun now => ?_⟩
  · rcases d.library.activate_cases id now with ⟨hunknown, hno⟩ |
      ⟨before, s, after, -, -, -, hok⟩
    · refine .inl ⟨hunknown, .library (.notFound id), ?_⟩
      rw [run, activate, hno]
      rfl
    · exact .inr ⟨_, _, _, run_activate who hok, h.redirects _ who⟩
  · exact ⟨_, _, rfl, h.redirects (d.library.deactivate now).2 who⟩

/-- Two accounts, one of them late, and two graphs, of which the one that asks for late accounts is
active. -/
def seating : List Call :=
  [.load "author"
      [{ Strategy.lateCard with number := "A-1" }, { Account.blank with number := "B-2" }],
    .save "author" ⟨0⟩ ⟨some "letters", "", "", Strategy.sorting, ""⟩,
    .save "author" ⟨0⟩ ⟨some "wait", "", "", ⟨[⟨"wait", none, .ending ⟨"", "wait", ""⟩, []⟩]⟩, ""⟩,
    .activate "author" ⟨1⟩ "letters"]

/-- New days in arrears for the late account. -/
def paid : Update := { Update.blank with number := " A-1 ", daysInArrears := some 45 }

/-- An import for the first account leaves the second as it was, and moves one.  The other graph has
other advice for one account of the two. -/
theorem moves_are_reported_seated :
    paid.place? (after .standard seating).queue = some 0 ∧
      (∃ summary d', (after .standard seating).run .clear (.importUpdates "author" [paid]) =
          (.ok (.imported summary), d') ∧
        d'.queue[1]? = (after .standard seating).queue[1]? ∧
        ∀ report, summary.reevaluation = some report → report.tally.changed = 1) ∧
      ∃ saved report d', (after .standard seating).run .clear (.activate "author" ⟨2⟩ "wait") =
        (.ok (.activated saved report), d') ∧ report.tally = ⟨2, 1⟩ := by
  obtain ⟨-, himport, hactivate, -⟩ := moves_are_reported .standard seating "author"
  have hplace : paid.place? (after .standard seating).queue = some 0 := by decide +kernel
  refine ⟨hplace, ?_, ?_⟩
  · obtain ⟨summary, d', hrun, -, hkept, -, hreport, -⟩ := himport [paid]
    have hmoved : differing Account.derived (after .standard seating).queue
        ((after .standard seating).run .clear (.importUpdates "author" [paid])).2.queue = 1 := by
      decide +kernel
    rw [hrun] at hmoved
    exact ⟨summary, d', hrun, hkept 1 (by simp [hplace]),
      fun report hr => (hreport report hr).trans hmoved⟩
  · have hmoved : differing Account.advice (after .standard seating).queue
        ((after .standard seating).run .clear (.activate "author" ⟨2⟩ "wait")).2.queue = 1 := by
      decide +kernel
    have hlength : (after .standard seating).queue.length = 2 := by decide +kernel
    rcases hactivate ⟨2⟩ "wait" with ⟨-, fault, hno⟩ | ⟨saved, report, d', hrun, hredirects⟩
    · rw [hno] at hmoved
      simp [differing] at hmoved
    · rw [hrun] at hmoved
      refine ⟨saved, report, d', hrun, ?_⟩
      rw [← hlength, ← hmoved, ← hredirects.evaluated, ← hredirects.changed]

end Desk

end Dunning
