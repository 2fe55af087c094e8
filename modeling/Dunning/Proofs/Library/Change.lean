import Dunning.Library.Basic

/-!
# Proofs/Library/Change — what saving, activating and deactivating do to a library

Each operation walks the entries up to the first that matters.  Read as a split of the list at that
entry, they say what becomes of it and of all others:

    reviseFirst    before ++ s :: after  ↦  before ++ s.revise :: after
    promoteFirst   before ++ s :: after  ↦  before.map demote ++ s.promote :: after.map demote
    demoteFirst    before ++ s :: after  ↦  before ++ s.demote :: after
-/

namespace Dunning

namespace SavedStrategy

@[simp] theorem revise_isActive (s : SavedStrategy) (d : Draft) (now : Instant) :
    (s.revise d now).isActive = s.isActive := rfl

@[simp] theorem first_isActive (id : String) (d : Draft) (now : Instant) :
    (first id d now).isActive = false := rfl

/-- A revision never is the entry it revises: the version has gone up. -/
theorem revise_ne (s : SavedStrategy) (d : Draft) (now : Instant) : s.revise d now ≠ s := fun h =>
  Nat.succ_ne_self s.version (congrArg version h)

theorem isActive_iff {s : SavedStrategy} : s.isActive = true ↔ s.status = .active := by
  simp [isActive]

theorem promote_eq_self_iff {s : SavedStrategy} {now : Instant} :
    s.promote now = s ↔ s.isActive = true ∧ s.updatedAt = now := by
  rw [isActive_iff]
  constructor
  · intro h
    exact ⟨(congrArg status h).symm, (congrArg updatedAt h).symm⟩
  · rintro ⟨hs, hu⟩
    cases s
    simp_all [promote]

theorem demote_eq_self_iff {s : SavedStrategy} {now : Instant} :
    s.demote now = s ↔ s.isActive = false := by
  cases h : s.isActive with
  | false => simp [demote, h]
  | true =>
    simp only [demote, h, if_true, Bool.true_eq_false, iff_false]
    intro hs
    have hactive : s.status = .active := isActive_iff.1 h
    have hinactive : Status.inactive = s.status := congrArg status hs
    rw [hactive] at hinactive
    cases hinactive

theorem demote_isActive (s : SavedStrategy) (now : Instant) : (s.demote now).isActive = false := by
  cases h : s.isActive with
  | false => rw [demote, h, if_neg Bool.false_ne_true, h]
  | true => rw [demote, h, if_pos rfl]; rfl

end SavedStrategy

namespace Library

variable {id : String} {now : Instant} {d : Draft} {s t : SavedStrategy}
  {entries rest : List SavedStrategy}

/-! ## The walks, as splits -/

theorem reviseFirst_eq_none_iff :
    reviseFirst id d now entries = none ↔ ∀ s ∈ entries, s.id ≠ id := by
  induction entries with
  | nil => simp [reviseFirst]
  | cons s entries ih => by_cases h : s.id = id <;> simp [reviseFirst, h, ih]

/-- **The first entry with the id is revised, and no other.** -/
theorem reviseFirst_eq_some (h : reviseFirst id d now entries = some (t, rest)) :
    ∃ before s after, entries = before ++ s :: after ∧ s.id = id ∧ (∀ u ∈ before, u.id ≠ id) ∧
      t = s.revise d now ∧ rest = before ++ t :: after := by
  induction entries generalizing rest with
  | nil => cases h
  | cons s entries ih =>
    by_cases hs : s.id = id
    · simp only [reviseFirst, hs, if_true, Option.some.injEq, Prod.mk.injEq] at h
      obtain ⟨rfl, rfl⟩ := h
      exact ⟨[], s, entries, rfl, hs, by simp, rfl, rfl⟩
    · simp only [reviseFirst, hs, if_false, Option.map_eq_some_iff, Prod.mk.injEq] at h
      obtain ⟨⟨t', rest'⟩, hr, ht', rfl⟩ := h
      obtain rfl : t' = t := ht'
      obtain ⟨before, s', after, rfl, hid, hb, ht, rfl⟩ := ih hr
      exact ⟨s :: before, s', after, rfl, hid, by simpa using ⟨hs, hb⟩, ht, rfl⟩

theorem promoteFirst_eq_none_iff :
    promoteFirst id now entries = none ↔ ∀ s ∈ entries, s.id ≠ id := by
  induction entries with
  | nil => simp [promoteFirst]
  | cons s entries ih => by_cases h : s.id = id <;> simp [promoteFirst, h, ih]

/-- **The first entry with the id is promoted, and every other one is demoted.** -/
theorem promoteFirst_eq_some (h : promoteFirst id now entries = some (t, rest)) :
    ∃ before s after, entries = before ++ s :: after ∧ s.id = id ∧ (∀ u ∈ before, u.id ≠ id) ∧
      t = s.promote now ∧ rest =
        before.map (SavedStrategy.demote now) ++ t :: after.map (SavedStrategy.demote now) := by
  induction entries generalizing rest with
  | nil => cases h
  | cons s entries ih =>
    by_cases hs : s.id = id
    · simp only [promoteFirst, hs, if_true, Option.some.injEq, Prod.mk.injEq] at h
      obtain ⟨rfl, rfl⟩ := h
      exact ⟨[], s, entries, rfl, hs, by simp, rfl, rfl⟩
    · simp only [promoteFirst, hs, if_false, Option.map_eq_some_iff, Prod.mk.injEq] at h
      obtain ⟨⟨t', rest'⟩, hr, ht', rfl⟩ := h
      obtain rfl : t' = t := ht'
      obtain ⟨before, s', after, rfl, hid, hb, ht, rfl⟩ := ih hr
      exact ⟨s :: before, s', after, rfl, hid, by simpa using ⟨hs, hb⟩, ht, rfl⟩

theorem demoteFirst_of_inactive (h : ∀ s ∈ entries, s.isActive = false) :
    demoteFirst now entries = entries := by
  induction entries with
  | nil => rfl
  | cons s entries ih =>
    obtain ⟨hs, hr⟩ := List.forall_mem_cons.1 h
    simp [demoteFirst, hs, ih hr]

theorem demoteFirst_split {before after : List SavedStrategy}
    (hb : ∀ u ∈ before, u.isActive = false) (hs : s.isActive = true) :
    demoteFirst now (before ++ s :: after) = before ++ s.demote now :: after := by
  induction before with
  | nil => simp [demoteFirst, hs]
  | cons u before ih =>
    obtain ⟨hu, hr⟩ := List.forall_mem_cons.1 hb
    simp [demoteFirst, hu, ih hr]

/-! ## What an operation can do

One statement per operation, guards included; all else about it follows from these. -/

theorem save_cases (l : Library) (d : Draft) (now : Instant) :
    (∃ before s after, l.entries = before ++ s :: after ∧ d.id = some s.id ∧
      (∀ u ∈ before, u.id ≠ s.id) ∧
      l.save d now = (s.revise d now, { l with entries := before ++ s.revise d now :: after })) ∨
    (∃ id, d.id = some id ∧ (∀ u ∈ l.entries, u.id ≠ id) ∧
      l.save d now = (.first id d now, l.push (.first id d now))) ∨
    (d.id = none ∧ l.save d now = (.first (strategyId l.nextNumber) d now,
      { l with sequence := l.nextNumber }.push (.first (strategyId l.nextNumber) d now))) := by
  cases hd : d.id with
  | none => exact .inr (.inr ⟨rfl, by simp only [save, hd]⟩)
  | some id =>
    cases hr : reviseFirst id d now l.entries with
    | none =>
      exact .inr (.inl ⟨id, rfl, reviseFirst_eq_none_iff.1 hr, by simp only [save, hd, hr]⟩)
    | some found =>
      obtain ⟨before, s, after, he, rfl, hb, ht, hrest⟩ := reviseFirst_eq_some hr
      refine .inl ⟨before, s, after, he, rfl, hb, ?_⟩
      simp only [save, hd, hr, hrest, ht]

theorem activate_cases (l : Library) (id : String) (now : Instant) :
    (l.get? id = none ∧ l.activate id now = .error (.notFound id)) ∨
    ∃ before s after, l.entries = before ++ s :: after ∧ s.id = id ∧ (∀ u ∈ before, u.id ≠ id) ∧
      l.activate id now = .ok (s.promote now, { l with
        entries := before.map (SavedStrategy.demote now) ++ s.promote now ::
          after.map (SavedStrategy.demote now) }) := by
  cases hp : promoteFirst id now l.entries with
  | none =>
    refine .inl ⟨?_, by simp only [activate, hp]⟩
    simpa [get?] using promoteFirst_eq_none_iff.1 hp
  | some found =>
    obtain ⟨before, s, after, he, hid, hb, ht, hrest⟩ := promoteFirst_eq_some hp
    exact .inr ⟨before, s, after, he, hid, hb, by simp only [activate, hp, hrest, ht]⟩

theorem deactivate_cases (l : Library) (now : Instant) :
    (l.active? = none ∧ l.deactivate now = (none, l)) ∨
    ∃ before s after, l.entries = before ++ s :: after ∧ (∀ u ∈ before, u.isActive = false) ∧
      s.isActive = true ∧ l.active? = some s ∧
      l.deactivate now = (some s.id, { l with entries := before ++ s.demote now :: after }) := by
  cases ha : l.active? with
  | none =>
    have hall : ∀ s ∈ l.entries, s.isActive = false := by simpa [active?] using ha
    exact .inl ⟨rfl, by simp only [deactivate, ha, demoteFirst_of_inactive hall, Option.map_none]⟩
  | some s =>
    obtain ⟨hs, before, after, he, hb⟩ := List.find?_eq_some_iff_append.1 ha
    have hb' : ∀ u ∈ before, u.isActive = false := by simpa using hb
    refine .inr ⟨before, s, after, he, hb', hs, rfl, ?_⟩
    simp only [deactivate, ha, he, demoteFirst_split hb' hs, Option.map_some]

/-- The first entry with an id, found by it. -/
theorem get?_split {l : Library} {before after : List SavedStrategy}
    (he : l.entries = before ++ s :: after) (hid : s.id = id) (hb : ∀ u ∈ before, u.id ≠ id) :
    l.get? id = some s := by
  rw [get?, List.find?_eq_some_iff_append]
  exact ⟨by simpa using hid, before, after, he, by simpa using hb⟩

/-- **Activating an entry makes it the active one**, whatever was active before. -/
theorem activate_of_get? {l : Library} (h : l.get? id = some s) (now : Instant) :
    ∃ l', l.activate id now = .ok (s.promote now, l') ∧ l'.active? = some (s.promote now) := by
  rcases activate_cases l id now with ⟨hno, -⟩ | ⟨before, t, after, he, hid, hb, hok⟩
  · rw [hno] at h
    cases h
  · obtain rfl := Option.some.inj (h.symm.trans (get?_split he hid hb))
    refine ⟨_, hok, List.find?_eq_some_iff_append.2 ⟨rfl, _, _, rfl, fun u hu => ?_⟩⟩
    obtain ⟨v, -, rfl⟩ := List.mem_map.1 hu
    simp [SavedStrategy.demote_isActive]

/-! ## When nothing changes -/

theorem setEntries_eq_self_iff {l : Library} :
    ({ l with entries := entries } : Library) = l ↔ entries = l.entries :=
  ⟨congrArg Library.entries, fun h => by rw [h]⟩

theorem map_demote_eq_self_iff :
    entries.map (SavedStrategy.demote now) = entries ↔ ∀ s ∈ entries, s.isActive = false := by
  induction entries with
  | nil => simp
  | cons s entries ih => simp [ih, SavedStrategy.demote_eq_self_iff]

/-- A save always leaves its mark: an entry more, or a greater version. -/
theorem save_library_ne (l : Library) (d : Draft) (now : Instant) : (l.save d now).2 ≠ l := by
  have hlen : ∀ {l' : Library} {t : SavedStrategy}, l'.entries = l.entries → l'.push t ≠ l := by
    intro l' t hl h
    have := congrArg (fun l : Library => l.entries.length) h
    simp [push, hl] at this
  rcases save_cases l d now with ⟨before, s, after, he, -, -, h⟩ | ⟨id, -, -, h⟩ | ⟨-, h⟩ <;> rw [h]
  · rw [Ne, setEntries_eq_self_iff, he]
    intro hentries
    have hs := (List.cons.inj (List.append_cancel_left hentries)).1
    exact s.revise_ne d now hs
  · exact hlen rfl
  · exact hlen rfl

/-- **Saving an entry that is not active does not change which graph is.** -/
theorem active?_save {l : Library} {d : Draft} (h : (l.save d now).1.isActive = false) :
    (l.save d now).2.active? = l.active? := by
  rcases save_cases l d now with ⟨before, s, after, he, -, -, hs⟩ | ⟨id, -, -, hs⟩ | ⟨-, hs⟩ <;>
    rw [hs] at h ⊢
  · rw [SavedStrategy.revise_isActive] at h
    simp [active?, he, List.find?_append, h]
  · simp [active?, push, List.find?_append]
  · simp [active?, push, List.find?_append]

/-- **An activation changes nothing just when its entry is the only active one already, and was last
touched at the very moment.** -/
theorem activate_eq_self_iff {l l' : Library} (h : l.activate id now = .ok (t, l')) :
    l' = l ↔ ∃ s, l.get? id = some s ∧ s.updatedAt = now ∧
      l.entries.filter SavedStrategy.isActive = [s] := by
  rcases activate_cases l id now with ⟨-, hno⟩ | ⟨before, s, after, he, hid, hb, hok⟩
  · rw [hno] at h
    cases h
  rw [hok] at h
  cases h
  have hentries : (before.map (SavedStrategy.demote now) ++ s.promote now ::
        after.map (SavedStrategy.demote now) = before ++ s :: after) ↔
      (∀ u ∈ before, u.isActive = false) ∧ (s.isActive = true ∧ s.updatedAt = now) ∧
        ∀ u ∈ after, u.isActive = false := by
    rw [List.append_eq_append_iff_of_size_eq_left (by simp), List.cons.injEq,
      map_demote_eq_self_iff, map_demote_eq_self_iff, SavedStrategy.promote_eq_self_iff]
  have hfilter : l.entries.filter SavedStrategy.isActive = [s] ↔
      (∀ u ∈ before, u.isActive = false) ∧ s.isActive = true ∧ ∀ u ∈ after, u.isActive = false := by
    cases hs : s.isActive with
    | true => simp [he, hs, List.append_eq_singleton_iff]
    | false =>
      have hne : l.entries.filter SavedStrategy.isActive ≠ [s] := fun h => by
        have hmem : s ∈ l.entries.filter SavedStrategy.isActive := by simp [h]
        simp [hs] at hmem
      simp [hne]
  rw [setEntries_eq_self_iff, he, hentries, get?_split he hid hb, ← he]
  simp only [Option.some.injEq, exists_eq_left', hfilter]
  exact ⟨fun ⟨hbefore, ⟨hs, hu⟩, hafter⟩ => ⟨hu, hbefore, hs, hafter⟩,
    fun ⟨hu, hbefore, hs, hafter⟩ => ⟨hbefore, ⟨hs, hu⟩, hafter⟩⟩

theorem deactivate_eq_self_iff {l : Library} : (l.deactivate now).2 = l ↔ l.active? = none := by
  rcases deactivate_cases l now with ⟨ha, h⟩ | ⟨before, s, after, he, -, hs, ha, h⟩ <;> rw [h]
  · simp [ha]
  · rw [setEntries_eq_self_iff, he]
    refine ⟨fun hentries => ?_, fun hn => absurd (ha.symm.trans hn) (by simp)⟩
    have hd := (List.cons.inj (List.append_cancel_left hentries)).1
    exact absurd hs (by simp [SavedStrategy.demote_eq_self_iff.1 hd])

end Library

end Dunning
