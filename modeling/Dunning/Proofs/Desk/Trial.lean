import Dunning.Proofs.Desk.InStep
import Dunning.Proofs.Desk.Report
import Dunning.Proofs.Library.FreshId

/-!
# Proofs/Desk/Trial — a trial tells what activating a graph will do

    trial g a ───────────────────────────────────────▸ evaluation of a
    save g under no id ──▸ id ──activate id──▸ queue ──▸ a with that evaluation

A trial asks the graph itself.  The queue is asked by way of the library: the draft gets an id, the
entry with this id becomes the active one, and the active graph is applied.  Both ask the same
graph, since the id is new (`Library.nextId_fresh`), so that no other entry answers to it, and since
an activation makes its entry the active one, whatever was active before
(`Library.activate_of_get?`).
-/

namespace Dunning

namespace Library

variable {d : Draft}

/-- **A draft saved without an id is found under the id it got.** -/
theorem get?_save_of_no_id (h : d.id = none) (l : Library) (now : Instant) :
    (l.save d now).2.get? (l.save d now).1.id = some (l.save d now).1 := by
  rw [save_of_no_id h]
  exact get?_split rfl rfl l.nextId_fresh

end Library

namespace Desk

variable {d : Desk} {draft : Draft} {saved : SavedStrategy}

/-- A draft without an id is saved, whatever the library. -/
theorem run_save_of_no_id (h : draft.id = none) (d : Desk) (who : String) (now : Instant) :
    d.run .clear (.save who now draft) = (.ok (.saved (d.library.save draft now).1),
      d.withLibrary (d.library.save draft now).2) := by
  have hdraft : (d.library.save draft now).1.isActive = false := by
    rw [Library.save_of_no_id h]
    rfl
  simp only [run, save, hdraft]
  rfl

/-- **An activation applies the graph of its entry to the queue**, and reports under its id. -/
theorem run_activate_of_get? {id : String} (h : d.library.get? id = some saved) (who : String)
    (now : Instant) :
    ∃ report d', d.run .clear (.activate who now id) =
        (.ok (.activated (saved.promote now) report), d') ∧
      d'.queue = (Strategy.graph saved.graph).reapply d.queue ∧
      report.strategyId = some saved.id := by
  obtain ⟨l, hok, hactive⟩ := Library.activate_of_get? h now
  have hstrategy : (d.withLibrary l).activeStrategy = (.graph saved.graph, some saved.id) := by
    simp only [activeStrategy, withLibrary, hactive]
    rfl
  refine ⟨(d.withLibrary l).reportOn who d.queue, (d.withLibrary l).withQueue d.queue,
    run_activate who hok, ?_, ?_⟩
  · rw [withQueue, hstrategy]
  · rw [reportOn, hstrategy]

/-- **A trial foretells the activation.**  If a draft without an id is saved, and the id it gets is
activated, every account of the queue is where it was before and has been given the evaluation that
a trial of the graph gave for it; and the report names the id. -/
theorem trial_foretells_activation (d : Desk) (h : draft.id = none) (who who' : String)
    (now now' : Instant) :
    ∃ saved d₁ active report d₂,
      d.run .clear (.save who now draft) = (.ok (.saved saved), d₁) ∧
      d₁.run .clear (.activate who' now' saved.id) = (.ok (.activated active report), d₂) ∧
      d₂.queue = d.queue.map (fun a => a.withEvaluation (trial draft.graph a).evaluation) ∧
      report.strategyId = some saved.id := by
  obtain ⟨report, d', hrun, hqueue, hid⟩ := run_activate_of_get?
    (d := d.withLibrary (d.library.save draft now).2)
    (Library.get?_save_of_no_id h d.library now) who' now'
  have hgraph : (d.library.save draft now).1.graph = draft.graph := by
    rw [Library.save_of_no_id h]
    rfl
  refine ⟨_, _, _, report, d', run_save_of_no_id h d who now, hrun, ?_, hid⟩
  rw [hqueue, hgraph]
  rfl

/-- Another graph is active, under the first id that would be tried. -/
def rehearsal : List Call :=
  [.load "author" [Strategy.lateCard, .blank],
    .save "author" ⟨0⟩ ⟨some "strategy_0001", "", "", .empty, ""⟩,
    .activate "author" ⟨1⟩ "strategy_0001"]

/-- A graph that sends late accounts a letter. -/
def letters : Draft := ⟨none, "letters", "", Strategy.sorting, ""⟩

/-- The draft gets the second id.  Once it is active, the late account carries the letter of which
its trial has told. -/
theorem trial_foretells_activation_letter :
    (trial letters.graph Strategy.lateCard).evaluation =
        ⟨1, "End: letter", .critical, .higherIsUrgent⟩ ∧
      ∃ saved d₁ active report d₂,
        (after .standard rehearsal).run .clear (.save "author" ⟨2⟩ letters) =
          (.ok (.saved saved), d₁) ∧
        saved.id = "strategy_0002" ∧
        d₁.run .clear (.activate "author" ⟨3⟩ saved.id) = (.ok (.activated active report), d₂) ∧
        d₂.queue.map Account.nextAction = [some "End: letter", some "End: wait"] ∧
        report.strategyId = some "strategy_0002" := by
  refine ⟨by decide +kernel, ?_⟩
  have hnew : letters.id = none := rfl
  obtain ⟨saved, d₁, active, report, d₂, hsave, hactivate, hqueue, hid⟩ :=
    trial_foretells_activation (after .standard rehearsal) hnew "author" "author" ⟨2⟩ ⟨3⟩
  have hname : saved.id = "strategy_0002" := by
    have hsaved := hsave.symm.trans (run_save_of_no_id hnew _ _ _)
    simp only [Prod.mk.injEq, Except.ok.injEq, Answer.saved.injEq] at hsaved
    rw [hsaved.1]
    decide +kernel
  refine ⟨saved, d₁, active, report, d₂, hsave, hname, hactivate, ?_, hname ▸ hid⟩
  rw [hqueue]
  decide +kernel

end Desk

end Dunning
