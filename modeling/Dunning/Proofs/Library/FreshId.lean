import Dunning.Library.Basic
import Dunning.Proofs.Text.FreshName

/-!
# Proofs/Library/FreshId — the id of a strategy that is saved without one

The search for a free number tries the numbers after the last one used, as many as there are entries
and one more.  Different numbers have different ids, so the entries cannot have taken all of these,
and the search ends at the least free one (`Library.nextNumber_spec`).
-/

namespace Dunning

namespace Library

/-- Different numbers have different ids, whatever their width. -/
theorem strategyId_injective : Function.Injective strategyId := by
  intro m n h
  have htext : Decimal.paddedText 4 m = Decimal.paddedText 4 n := String.append_right_inj _ |>.1 h
  have hdigits : Decimal.padded 4 m = Decimal.padded 4 n := String.ofList_injective htext
  rw [← Decimal.value_padded 4 m, hdigits, Decimal.value_padded]

variable {l : Library}

theorem get?_isNone_iff {id : String} :
    (l.get? id).isNone ↔ id ∉ l.entries.map SavedStrategy.id := by
  simp [get?]

/-- The next number is where a loop ends that tries those beyond the last one used. -/
theorem finds_nextNumber (l : Library) :
    Text.Finds (fun k => (l.get? (strategyId k)).isNone) (l.sequence + 1) l.nextNumber := by
  have h := Text.finds_untaken strategyId_injective (fun _ => l.get?_isNone_iff)
    (fun n => show l.freeNumber 0 n = n from rfl) (fun _ _ => rfl) (l.sequence + 1)
  rw [List.length_map] at h
  exact h.1

/-- The next number is the least beyond the last one used whose id is free. -/
theorem isLeast_nextNumber (l : Library) :
    IsLeast {k | l.sequence + 1 ≤ k ∧ (l.get? (strategyId k)).isNone} l.nextNumber :=
  l.finds_nextNumber.isLeast

/-- **The next number is beyond the last one used, its id is free, and those in between have ids of
entries.** -/
theorem nextNumber_spec (l : Library) :
    l.sequence < l.nextNumber ∧ l.get? (strategyId l.nextNumber) = none ∧
      ∀ k, l.sequence < k → k < l.nextNumber → (l.get? (strategyId k)).isSome := by
  obtain ⟨⟨hle, hfree⟩, hleast⟩ := l.isLeast_nextNumber
  refine ⟨hle, Option.isNone_iff_eq_none.1 hfree, fun k hk hlt => ?_⟩
  by_contra hno
  exact absurd (hleast ⟨hk, by simpa using hno⟩) (by omega)

/-- No entry has the id of the next number. -/
theorem nextId_fresh (l : Library) : ∀ s ∈ l.entries, s.id ≠ strategyId l.nextNumber := by
  simpa [get?] using l.nextNumber_spec.2.1

theorem save_of_no_id {d : Draft} (h : d.id = none) (l : Library) (now : Instant) :
    l.save d now = (.first (strategyId l.nextNumber) d now,
      { l with sequence := l.nextNumber }.push (.first (strategyId l.nextNumber) d now)) := by
  simp only [save, h]

end Library

end Dunning
