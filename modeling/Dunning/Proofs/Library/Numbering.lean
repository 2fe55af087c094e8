import Dunning.Proofs.Library.History

/-!
# Proofs/Library/Numbering — the numbers in the ids of strategies

    saved under    no id            strategy_0003    no id            no id
    gets           strategy_0001    strategy_0003    strategy_0002    strategy_0004
    last number    1                1                2                4

A save without an id tries the numbers beyond the last one used.  It passes over one only if an
entry has its id, and leaves an entry under the one it ends at, so the ids of all numbers up to the
last are taken (`Library.NumbersTaken`).  There are no more of these than entries, and so than
saves; and in a run the numbers only go up (`Library.givenIds_eq`).
-/

namespace Dunning

namespace Library

/-- The id that an event gives to a strategy that is saved without one. -/
def Event.given? (l : Library) : Event → Option String
  | .save draft now => if draft.id = none then some (l.save draft now).1.id else none
  | .activate .. | .deactivate .. => none

/-- The ids that a run of events gives to strategies that are saved without one. -/
def givenIds (l : Library) : List Event → List String
  | [] => []
  | e :: events => (e.given? l).toList ++ (l.step e).givenIds events

/-- Entries have the ids of all numbers up to the last one used. -/
def NumbersTaken (l : Library) : Prop :=
  ∀ k, 1 ≤ k → k ≤ l.sequence → strategyId k ∈ l.ids

variable {l : Library} {id : String}

/-! ## One event -/

theorem get?_isSome_iff : (l.get? id).isSome ↔ id ∈ l.ids := by
  simp [get?, ids]

/-- **An event leaves the last number as it is, or uses up the next one** and gives its id to a new
entry. -/
theorem given?_cases (l : Library) (e : Event) :
    (e.given? l = none ∧ (l.step e).sequence = l.sequence) ∨
      (e.given? l = some (strategyId l.nextNumber) ∧ (l.step e).sequence = l.nextNumber ∧
        strategyId l.nextNumber ∈ (l.step e).ids) := by
  cases e with
  | save d now =>
    rcases save_cases l d now with ⟨before, s, after, -, hd, -, h⟩ | ⟨id, hd, -, h⟩ | ⟨hd, h⟩
    · exact .inl ⟨by simp [Event.given?, hd], by rw [step, h]⟩
    · exact .inl ⟨by simp [Event.given?, hd], by rw [step, h, push]⟩
    · refine .inr ⟨?_, by rw [step, h, push], ?_⟩
      · rw [Event.given?, if_pos hd, h, SavedStrategy.first]
      · simp [step, h, ids, push, SavedStrategy.first]
  | activate id now =>
    rcases activate_cases l id now with ⟨-, h⟩ | ⟨before, s, after, -, -, -, h⟩
    · exact .inl ⟨rfl, by simp only [step, h]⟩
    · exact .inl ⟨rfl, by simp only [step, h]⟩
  | deactivate now => exact .inl ⟨rfl, rfl⟩

theorem NumbersTaken.step (h : l.NumbersTaken) (hl : l.Sound) (e : Event) :
    (l.step e).NumbersTaken := by
  intro k hk hle
  have hkept : l.ids ⊆ (l.step e).ids := by
    rcases step_ids hl e with hids | ⟨id, -, hids⟩ <;> rw [hids]
    · exact List.Subset.refl _
    · exact List.subset_append_left _ _
  rcases l.given?_cases e with ⟨-, hlast⟩ | ⟨-, hlast, hnew⟩ <;> rw [hlast] at hle
  · exact hkept (h k hk hle)
  -- up to the last number, between it and the next, or the next
  by_cases hold : k ≤ l.sequence
  · exact hkept (h k hk hold)
  rcases Nat.lt_or_eq_of_le hle with hlt | rfl
  · exact hkept (get?_isSome_iff.1 (l.nextNumber_spec.2.2 k (by omega) hlt))
  · exact hnew

/-- There are no more numbers than entries to take their ids. -/
theorem NumbersTaken.sequence_le (h : l.NumbersTaken) : l.sequence ≤ l.entries.length := by
  obtain ⟨k, hk, hreach, hfree⟩ := Text.exists_untaken strategyId_injective l.ids 1
  rw [ids, List.length_map] at hreach
  have hlt : l.sequence < k := by
    by_contra hno
    exact hfree (h k hk (by omega))
  omega

/-! ## A run of events -/

/-- **The numbers used up in a run only go up**, from the last one used before it. -/
theorem givenIds_eq (l : Library) (events : List Event) :
    ∃ numbers, l.givenIds events = numbers.map strategyId ∧
      (l.sequence :: numbers).Pairwise (· < ·) := by
  induction events generalizing l with
  | nil => exact ⟨[], rfl, List.pairwise_singleton _ _⟩
  | cons e events ih =>
    obtain ⟨numbers, hids, hup⟩ := ih (l.step e)
    rcases l.given?_cases e with ⟨hnone, hlast⟩ | ⟨hgiven, hlast, -⟩ <;> rw [hlast] at hup
    · exact ⟨numbers, by rw [givenIds, hnone, hids]; rfl, hup⟩
    · refine ⟨l.nextNumber :: numbers, by rw [givenIds, hgiven, hids]; rfl, ?_⟩
      have hnext : l.sequence < l.nextNumber := l.nextNumber_spec.1
      refine List.pairwise_cons.2 ⟨fun k hk => ?_, hup⟩
      rcases List.mem_cons.1 hk with rfl | hk
      · exact hnext
      · exact hnext.trans (List.rel_of_pairwise_cons hup hk)

theorem numbersTaken_ofRun (events : List Event) : (ofRun events).NumbersTaken := by
  induction events using List.reverseRecOn with
  | nil => exact fun k hk hle => absurd hle (Nat.not_le.2 hk)
  | append_singleton events e ih => rw [ofRun_concat]; exact ih.step (sound_ofRun events) e

/-- Only a save makes an entry. -/
theorem length_entries_le (events : List Event) :
    (ofRun events).entries.length ≤ events.countP Event.isSave := by
  induction events using List.reverseRecOn with
  | nil => exact Nat.le_refl 0
  | append_singleton events e ih =>
    rw [ofRun_concat, List.countP_append]
    rcases step_entries (sound_ofRun events) e with h | ⟨d, now, id, rfl, -, -, h⟩ <;> rw [h]
    · rw [List.length_map]
      exact ih.trans (Nat.le_add_right _ _)
    · rw [List.length_append, List.length_map]
      exact Nat.add_le_add_right ih 1

/-- The last number used is at most the number of saves. -/
theorem sequence_ofRun_le (events : List Event) :
    (ofRun events).sequence ≤ events.countP Event.isSave :=
  (numbersTaken_ofRun events).sequence_le.trans (length_entries_le events)

/-- A save without an id is a save too, so it uses a number that is not greater than their count. -/
theorem nextNumber_ofRun_le (events : List Event) {d : Draft} (hd : d.id = none) (now : Instant) :
    (ofRun events).nextNumber ≤ events.countP Event.isSave + 1 := by
  have hlast : (ofRun (events ++ [.save d now])).sequence = (ofRun events).nextNumber := by
    rw [ofRun_concat, step, save_of_no_id hd, push]
  calc (ofRun events).nextNumber
      = (ofRun (events ++ [.save d now])).sequence := hlast.symm
    _ ≤ (events ++ [Event.save d now]).countP Event.isSave := sequence_ofRun_le _
    _ = events.countP Event.isSave + 1 := by rw [List.countP_append]; rfl

/-- **The ids that a library gives never clash.**  A save without an id, whatever ids the entries
have, looks for a number among those beyond the last one used, and this ends: at the least whose id
is free, which is at most the number of saves, this one included, and so never grows too large to be
counted.  The new entry comes last under the id of this number, which is the last one used from then
on, and the others stay as they are.  In a run the numbers go up, and no id is given twice, however
many digits it takes. -/
theorem given_ids_never_clash (events : List Event) :
    (∀ d now, d.id = none → ∃ k,
      Text.Finds (fun j => ((ofRun events).get? (strategyId j)).isNone)
          ((ofRun events).sequence + 1) k ∧
        IsLeast {j | (ofRun events).sequence < j ∧
          ∀ s ∈ (ofRun events).entries, s.id ≠ "strategy_" ++ Decimal.paddedText 4 j} k ∧
        k ≤ events.countP Event.isSave + 1 ∧
        (ofRun events).save d now =
          (.first ("strategy_" ++ Decimal.paddedText 4 k) d now,
            ⟨(ofRun events).entries ++
              [.first ("strategy_" ++ Decimal.paddedText 4 k) d now], k⟩)) ∧
      ∃ numbers : List Nat,
        empty.givenIds events = numbers.map (fun k => "strategy_" ++ Decimal.paddedText 4 k) ∧
          numbers.Pairwise (· < ·) ∧ (empty.givenIds events).Nodup := by
  constructor
  · intro d now hd
    have hfree : ∀ j, ((ofRun events).get? (strategyId j)).isNone ↔
        ∀ s ∈ (ofRun events).entries, s.id ≠ strategyId j := fun j =>
      get?_isNone_iff.trans not_mem_ids_iff
    have hleast := (ofRun events).isLeast_nextNumber
    simp only [hfree] at hleast
    exact ⟨_, (ofRun events).finds_nextNumber, hleast, nextNumber_ofRun_le events hd now,
      save_of_no_id hd _ now⟩
  · obtain ⟨numbers, hids, hup⟩ := givenIds_eq empty events
    have hup' : numbers.Pairwise (· < ·) := (List.pairwise_cons.1 hup).2
    have hnodup : numbers.Nodup := hup'.imp Nat.ne_of_lt
    exact ⟨numbers, hids, hup', hids ▸ hnodup.map strategyId_injective⟩

/-- A draft under an id, or under none. -/
def blankDraft (id : Option String) : Draft := ⟨id, "", "", .empty, ""⟩

/-- Two entries have taken the ids of the numbers that come next. -/
def overtaken : List Event :=
  [.save (blankDraft none) ⟨0⟩, .save (blankDraft "strategy_0003") ⟨1⟩,
    .save (blankDraft "strategy_0002") ⟨2⟩, .activate "strategy_0003" ⟨3⟩]

/-- The next strategy without an id gets the fourth number, and both of them have different ones. -/
theorem given_ids_never_clash_overtaken :
    (ofRun overtaken).sequence = 1 ∧
      ((ofRun overtaken).save (blankDraft none) ⟨4⟩).1.id = "strategy_0004" ∧
      ((ofRun overtaken).save (blankDraft none) ⟨4⟩).2.sequence = 4 ∧
      IsLeast {j | (ofRun overtaken).sequence < j ∧
        ∀ s ∈ (ofRun overtaken).entries, s.id ≠ "strategy_" ++ Decimal.paddedText 4 j} 4 ∧
      (empty.givenIds (overtaken ++ [.save (blankDraft none) ⟨4⟩])).Nodup := by
  obtain ⟨k, -, hleast, -, hsave⟩ :=
    (given_ids_never_clash overtaken).1 (blankDraft none) ⟨4⟩ rfl
  obtain ⟨-, numbers, -, -, hnodup⟩ :=
    given_ids_never_clash (overtaken ++ [.save (blankDraft none) ⟨4⟩])
  have hlast : ((ofRun overtaken).save (blankDraft none) ⟨4⟩).2.sequence = 4 := by decide +kernel
  have hk : k = 4 := by
    rw [hsave] at hlast
    exact hlast
  subst hk
  exact ⟨by decide +kernel, by decide +kernel, hlast, hleast, hnodup⟩

/-- Four digits are the least, not the most. -/
example : strategyId 12345 = "strategy_12345" := by decide +kernel

end Library

end Dunning
