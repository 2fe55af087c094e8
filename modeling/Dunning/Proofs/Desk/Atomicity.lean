import Dunning.Proofs.Desk.Call

/-!
# Proofs/Desk/Atomicity — what a call that fails leaves behind

The queue is the last thing a call writes, so no failure touches it.  The library is written first:
what a call changes there stays when the store fails afterwards.  Loading, applying and importing
change nothing in the library, and so they happen wholly or not at all; a save, an activation or a
deactivation that fails is undone only if it had nothing to change (`Call.Spares`).
-/

namespace Dunning

/-- A call that changes nothing in a library.  A save always does, an activation unless its entry is
missing or is the only active one since this very moment, a deactivation where one is active. -/
def Call.Spares (l : Library) : Call → Prop
  | .load .. | .apply .. | .importUpdates .. => True
  | .save .. => False
  | .activate _ now id => l.get? id = none ∨
      ∃ s, l.get? id = some s ∧ s.updatedAt = now ∧ l.entries.filter SavedStrategy.isActive = [s]
  | .deactivate .. => l.active? = none

theorem Call.library_eq_self_iff {l : Library} : ∀ {c : Call}, c.library l = l ↔ c.Spares l
  | .load .. | .apply .. | .importUpdates .. => by simp [library, Spares]
  | .save _ now draft => by simpa [library, Spares] using l.save_library_ne draft now
  | .deactivate .. => Library.deactivate_eq_self_iff
  | .activate _ now id => by
      simp only [library, Spares]
      rcases l.activate_cases id now with ⟨hn, he⟩ | ⟨before, s, after, he, hid, hb, hok⟩
      · simp [he, hn]
      · have hg : l.get? id ≠ none := by simp [Library.get?_split he hid hb]
        rw [hok, Library.activate_eq_self_iff hok, or_iff_right hg]

namespace Desk

/-- **A call that fails leaves the queue alone, and everything if and only if it spares the
library.** -/
theorem failed_call_unchanged_iff {d : Desk} {o : Outage} {c : Call} {fault : DeskFault}
    (h : (d.run o c).1 = .error fault) :
    (d.run o c).2 = d.withLibrary (c.library d.library) ∧
      ((d.run o c).2 = d ↔ c.Spares d.library) := by
  have hleft : (d.run o c).2 = d.withLibrary (c.library d.library) := by
    have he := d.run_ends o c
    generalize d.run o c = reply at h he
    cases he with
    | refused hu =>
      cases c with
      | activate who now id =>
        have hs : (Call.activate who now id).Spares d.library := .inl hu
        rw [Call.library_eq_self_iff.2 hs, withLibrary_self]
      | _ => exact hu.elim
    | stopped => rfl
    | done => cases h
  exact ⟨hleft, by rw [hleft, withLibrary_eq_self_iff, Call.library_eq_self_iff]⟩

/-- A desk with one saved graph, which has no nodes and is not active. -/
def drafted : Desk :=
  ((opened .standard).run .clear (.save "author" ⟨0⟩ ⟨some "late", "", "", .empty, ""⟩)).2

/-- An activation while the queue cannot be read: it fails, but it does change the desk. -/
theorem failed_call_unchanged_iff_activation :
    (drafted.run ⟨true, false⟩ (.activate "author" ⟨1⟩ "late")).1 = .error .readsOffline ∧
      (drafted.run ⟨true, false⟩ (.activate "author" ⟨1⟩ "late")).2 ≠ drafted := by
  have h : (drafted.run ⟨true, false⟩ (.activate "author" ⟨1⟩ "late")).1 =
      .error .readsOffline := rfl
  refine ⟨h, fun hd => ?_⟩
  rcases (failed_call_unchanged_iff h).2.1 hd with hn | ⟨s, -, -, hs⟩
  · exact absurd hn (by decide)
  · have hnone : drafted.library.entries.filter SavedStrategy.isActive = [] := by decide
    rw [hnone] at hs
    cases hs

/-- **A failing call may switch the active strategy**: an activation does it before it reads the
queue. -/
theorem failed_activation_switches :
    ∃ (d : Desk) (o : Outage) (c : Call) (fault : DeskFault), (d.run o c).1 = .error fault ∧
      (d.run o c).2.library.active? ≠ d.library.active? :=
  ⟨drafted, ⟨true, false⟩, .activate "author" ⟨1⟩ "late", .readsOffline, rfl, by decide⟩

end Desk

end Dunning
