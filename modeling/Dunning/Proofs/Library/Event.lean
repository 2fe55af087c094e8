import Mathlib.Data.List.Nodup
import Dunning.Proofs.Library.Change
import Dunning.Proofs.Library.FreshId

/-!
# Proofs/Library/Event — what an event makes of a library

While ids are distinct and at most one entry is active (`Library.Sound`), an event acts on each
entry by itself, and adds at most one behind them:

    s₁  s₂  s₃    ──event──▸    act s₁  act s₂  act s₃  new

It finds an entry by its id, or as the active one, so this says that no other entry is meant.  Both
conditions are kept (`Library.Sound.step`): a new entry has a new id and is a draft, and an
activation demotes all others.
-/

namespace Dunning

namespace SavedStrategy

/-- The second is the first at a later time, as far as the time of its making and its maker tell;
and it is no draft any more if the first is none. -/
structure Before (s t : SavedStrategy) : Prop where
  id : t.id = s.id
  createdAt : t.createdAt = s.createdAt
  createdBy : t.createdBy = s.createdBy
  no_draft : s.status ≠ .draft → t.status ≠ .draft

variable {s t u : SavedStrategy}

theorem Before.refl (s : SavedStrategy) : s.Before s := ⟨rfl, rfl, rfl, fun h => h⟩

theorem Before.trans (h : s.Before t) (h' : t.Before u) : s.Before u :=
  ⟨h'.id.trans h.id, h'.createdAt.trans h.createdAt, h'.createdBy.trans h.createdBy,
    fun hs => h'.no_draft (h.no_draft hs)⟩

theorem before_revise (s : SavedStrategy) (d : Draft) (now : Instant) : s.Before (s.revise d now) :=
  ⟨rfl, rfl, rfl, fun h => h⟩

theorem before_promote (s : SavedStrategy) (now : Instant) : s.Before (s.promote now) :=
  ⟨rfl, rfl, rfl, fun _ h => by cases h⟩

theorem before_demote (s : SavedStrategy) (now : Instant) : s.Before (s.demote now) := by
  rw [demote]
  split_ifs
  · exact ⟨rfl, rfl, rfl, fun _ h => by cases h⟩
  · exact .refl s

theorem demote_version (s : SavedStrategy) (now : Instant) :
    (s.demote now).version = s.version := by
  rw [demote]
  split_ifs <;> rfl

end SavedStrategy

namespace Library

/-- What can happen to a library. -/
inductive Event where
  | save (draft : Draft) (now : Instant)
  | activate (id : String) (now : Instant)
  | deactivate (now : Instant)

namespace Event

/-- When an event happens. -/
def time : Event → Instant
  | .save _ now | .activate _ now | .deactivate now => now

/-- A save that names an id. -/
def saves (id : String) : Event → Bool
  | .save draft _ => draft.id == some id
  | .activate .. | .deactivate .. => false

/-- A save. -/
def isSave : Event → Bool
  | .save .. => true
  | .activate .. | .deactivate .. => false

end Event

/-- The ids of the entries. -/
def ids (l : Library) : List String := l.entries.map SavedStrategy.id

/-- The entry with an id is active. -/
def ActiveId (l : Library) (id : String) : Prop := ∃ s ∈ l.entries, s.id = id ∧ s.isActive

/-- An event saves, activates or demotes the entry with an id. -/
def Event.Touches (l : Library) (id : String) : Event → Prop
  | .save draft now => (l.save draft now).1.id = id
  | .activate i _ => i ∈ l.ids ∧ (i = id ∨ l.ActiveId id)
  | .deactivate _ => l.ActiveId id

/-- What an event makes of an entry. -/
def Event.act (l : Library) (s : SavedStrategy) : Event → SavedStrategy
  | .save draft now => if draft.id = some s.id then s.revise draft now else s
  | .activate id now =>
    if id ∈ l.ids then if s.id = id then s.promote now else s.demote now else s
  | .deactivate now => s.demote now

/-- The library after an event; one that names an unknown id is refused. -/
def step (l : Library) : Event → Library
  | .save draft now => (l.save draft now).2
  | .activate id now =>
    match l.activate id now with
    | .ok (_, l') => l'
    | .error _ => l
  | .deactivate now => (l.deactivate now).2

/-- Distinct ids, and at most one active entry. -/
structure Sound (l : Library) : Prop where
  ids_nodup : l.ids.Nodup
  active_unique : ∀ s ∈ l.entries, ∀ t ∈ l.entries, s.isActive → t.isActive → s = t

variable {l : Library} {e : Event} {s t : SavedStrategy} {d : Draft} {id : String} {now : Instant}
  {before after : List SavedStrategy}

/-! ## One entry -/

theorem id_mem_ids (h : s ∈ l.entries) : s.id ∈ l.ids := List.mem_map_of_mem h

theorem not_mem_ids_iff : id ∉ l.ids ↔ ∀ s ∈ l.entries, s.id ≠ id := by
  simp [ids]

/-- What an event makes of an entry comes after it. -/
theorem Event.after_act (l : Library) (s : SavedStrategy) (e : Event) : s.Before (e.act l s) := by
  cases e with
  | save d now =>
    rw [act]
    split_ifs
    · exact s.before_revise d now
    · exact .refl s
  | activate id now =>
    rw [act]
    split_ifs
    · exact s.before_promote now
    · exact s.before_demote now
    · exact .refl s
  | deactivate now => exact s.before_demote now

/-- Saves under its id, and nothing else, make a new version of an entry. -/
theorem Event.act_version (l : Library) (s : SavedStrategy) (e : Event) :
    (e.act l s).version = s.version + if e.saves s.id then 1 else 0 := by
  cases e with
  | save d now =>
    rw [act, saves]
    split_ifs with h hs hs
    · rfl
    · exact absurd h (by simpa using hs)
    · exact absurd (by simpa using hs) h
    · rfl
  | activate id now =>
    rw [act, show (activate id now).saves s.id = false from rfl, if_neg Bool.false_ne_true]
    split_ifs
    · rfl
    · exact s.demote_version now
    · rfl
  | deactivate now => exact s.demote_version now

/-- A save without an id never meets an entry, so a save under the id of one names it. -/
theorem save_id_eq_iff (hs : s ∈ l.entries) : (l.save d now).1.id = s.id ↔ d.id = some s.id := by
  rcases save_cases l d now with ⟨_, t, _, _, hd, _, h⟩ | ⟨id, hd, _, h⟩ | ⟨hd, h⟩ <;> rw [h, hd]
  · simp [SavedStrategy.revise]
  · simp [SavedStrategy.first]
  · simpa [SavedStrategy.first] using (l.nextId_fresh s hs).symm

theorem activeId_iff (hl : l.Sound) (hs : s ∈ l.entries) : l.ActiveId s.id ↔ s.isActive := by
  refine ⟨fun ⟨t, ht, hid, hactive⟩ => ?_, fun h => ⟨s, hs, rfl, h⟩⟩
  obtain rfl := List.inj_on_of_nodup_map hl.ids_nodup ht hs hid
  exact hactive

/-- **An event that touches an entry leaves its time on it**, and any other leaves it alone. -/
theorem Event.act_touches (hl : l.Sound) (hs : s ∈ l.entries) (e : Event) :
    (e.Touches l s.id → (e.act l s).updatedAt = e.time) ∧ (¬ e.Touches l s.id → e.act l s = s) := by
  have hdemote : ∀ now, (s.isActive → (s.demote now).updatedAt = now) ∧
      (¬ s.isActive → s.demote now = s) := fun now => by
    cases h : s.isActive <;> simp [SavedStrategy.demote, h]
  cases e with
  | save d now =>
    rw [Touches, save_id_eq_iff hs, act]
    exact ⟨fun h => by rw [if_pos h]; rfl, fun h => if_neg h⟩
  | activate id now =>
    rw [Touches, activeId_iff hl hs, act]
    by_cases hid : id ∈ l.ids
    · by_cases heq : s.id = id
      · simp [heq, hid, SavedStrategy.promote, time]
      · simpa [hid, heq, Ne.symm heq, time] using hdemote now
    · simp [hid]
  | deactivate now =>
    rw [Touches, activeId_iff hl hs]
    exact hdemote now

/-! ## One event -/

theorem map_eq_self {f : SavedStrategy → SavedStrategy} {entries : List SavedStrategy}
    (h : ∀ s ∈ entries, f s = s) : entries.map f = entries := by
  rw [List.map_congr_left (g := fun s => s) h, List.map_id']

/-- No other entry has the id of one of them. -/
theorem Sound.id_ne (hl : l.Sound) (he : l.entries = before ++ s :: after) :
    (∀ u ∈ before, u.id ≠ s.id) ∧ ∀ u ∈ after, u.id ≠ s.id := by
  have hnodup := hl.ids_nodup
  rw [ids, he, List.map_append, List.map_cons, List.nodup_middle, List.nodup_cons] at hnodup
  simpa [or_imp, forall_and] using hnodup.1

/-- **An event acts on each entry by itself, and adds at most one**: the first version of a draft,
under an id that no entry has. -/
theorem step_entries (hl : l.Sound) (e : Event) :
    (l.step e).entries = l.entries.map (e.act l) ∨
    ∃ d now id, e = .save d now ∧ id ∉ l.ids ∧ (l.save d now).1 = .first id d now ∧
      (l.step e).entries = l.entries.map (e.act l) ++ [.first id d now] := by
  cases e with
  | save d now =>
    rcases save_cases l d now with ⟨before, s, after, he, hd, -, h⟩ | ⟨id, hd, hnew, h⟩ | ⟨hd, h⟩
    · obtain ⟨hbefore, hafter⟩ := hl.id_ne he
      have hsame : ∀ u : SavedStrategy, u.id ≠ s.id → (Event.save d now).act l u = u := fun u hu =>
        if_neg (by simpa [hd] using hu.symm)
      refine .inl ?_
      rw [step, h, he, List.map_append, List.map_cons,
        map_eq_self fun u hu => hsame u (hbefore u hu),
        map_eq_self fun u hu => hsame u (hafter u hu), Event.act, if_pos hd]
    · have hsame : ∀ u ∈ l.entries, (Event.save d now).act l u = u := fun u hu =>
        if_neg (by simpa [hd] using (hnew u hu).symm)
      refine .inr ⟨d, now, id, rfl, not_mem_ids_iff.2 hnew, by rw [h], ?_⟩
      rw [step, h, map_eq_self hsame, push]
    · have hsame : ∀ u ∈ l.entries, (Event.save d now).act l u = u := fun u _ =>
        if_neg (by simp [hd])
      refine .inr ⟨d, now, _, rfl, not_mem_ids_iff.2 l.nextId_fresh, by rw [h], ?_⟩
      rw [step, h, map_eq_self hsame, push]
  | activate id now =>
    rcases activate_cases l id now with ⟨hno, h⟩ | ⟨before, s, after, he, hid, -, h⟩
    · have hnew : id ∉ l.ids := get?_isNone_iff.1 (by rw [hno]; rfl)
      have hsame : ∀ u : SavedStrategy, (Event.activate id now).act l u = u := fun u => if_neg hnew
      refine .inl ?_
      simp only [step, h, map_eq_self fun u _ => hsame u]
    · obtain ⟨hbefore, hafter⟩ := hl.id_ne he
      have hmem : id ∈ l.ids := hid ▸ id_mem_ids (he ▸ by simp)
      have hdemote : ∀ u : SavedStrategy, u.id ≠ s.id →
          (Event.activate id now).act l u = u.demote now := fun u hu => by
        rw [Event.act, if_pos hmem, if_neg (hid ▸ hu)]
      refine .inl ?_
      simp only [step, h]
      rw [he, List.map_append, List.map_cons,
        List.map_congr_left fun u hu => hdemote u (hbefore u hu),
        List.map_congr_left fun u hu => hdemote u (hafter u hu),
        Event.act, if_pos hmem, if_pos hid]
  | deactivate now =>
    have hidle : ∀ entries : List SavedStrategy, (∀ u ∈ entries, u.isActive = false) →
        entries.map ((Event.deactivate now).act l) = entries := fun entries h =>
      map_demote_eq_self_iff.2 h
    rcases deactivate_cases l now with ⟨hno, h⟩ | ⟨before, s, after, he, hbefore, hs, -, h⟩
    · refine .inl ?_
      rw [step, h, hidle l.entries (by simpa [active?] using hno)]
    · have hafter : ∀ u ∈ after, u.isActive = false := fun u hu => by
        by_contra hactive
        have heq := hl.active_unique u (by simp [he, hu]) s (by simp [he])
          (by simpa using hactive) hs
        exact (hl.id_ne he).2 u hu (congrArg SavedStrategy.id heq)
      refine .inl ?_
      rw [step, h, he, List.map_append, List.map_cons, hidle before hbefore, hidle after hafter,
        Event.act]

/-- **An entry keeps its place.** -/
theorem getElem?_step (hl : l.Sound) {i : Nat} (hs : l.entries[i]? = some s) (e : Event) :
    (l.step e).entries[i]? = some (e.act l s) := by
  obtain ⟨hi, -⟩ := List.getElem?_eq_some_iff.1 hs
  rcases step_entries hl e with h | ⟨d, now, id, -, -, -, h⟩
  · rw [h, List.getElem?_map, hs, Option.map_some]
  · rw [h, List.getElem?_append_left (by simpa using hi), List.getElem?_map, hs, Option.map_some]

theorem step_ids (hl : l.Sound) (e : Event) :
    (l.step e).ids = l.ids ∨ ∃ id, id ∉ l.ids ∧ (l.step e).ids = l.ids ++ [id] := by
  have hact : (l.entries.map (e.act l)).map SavedStrategy.id = l.ids := by
    rw [List.map_map, ids]
    exact List.map_congr_left fun s _ => (e.after_act l s).id
  rcases step_entries hl e with h | ⟨d, now, id, -, hnew, -, h⟩
  · exact .inl (by rw [ids, h, hact])
  · exact .inr ⟨id, hnew, by rw [ids, h, List.map_append, hact]; rfl⟩

/-- **At most one entry is active after an event**: the one it activates; or none, if it
deactivates; or the one that was active before. -/
theorem act_active (hl : l.Sound) (hs : s ∈ l.entries) (ht : t ∈ l.entries) (e : Event)
    (has : (e.act l s).isActive) (hat : (e.act l t).isActive) : s = t := by
  cases e with
  | save d now =>
    have hkept : ∀ u, ((Event.save d now).act l u).isActive = u.isActive := fun u => by
      rw [Event.act]
      split_ifs <;> rfl
    rw [hkept] at has hat
    exact hl.active_unique s hs t ht has hat
  | activate id now =>
    rw [Event.act] at has hat
    split_ifs at has hat with hmem hsid htid
    · exact List.inj_on_of_nodup_map hl.ids_nodup hs ht (hsid.trans htid.symm)
    · simp [SavedStrategy.demote_isActive] at hat
    · simp [SavedStrategy.demote_isActive] at has
    · simp [SavedStrategy.demote_isActive] at has
    · exact hl.active_unique s hs t ht has hat
  | deactivate now =>
    rw [Event.act, SavedStrategy.demote_isActive] at has
    cases has

theorem Sound.step (hl : l.Sound) (e : Event) : (l.step e).Sound := by
  refine ⟨?_, ?_⟩
  · rcases step_ids hl e with h | ⟨id, hnew, h⟩ <;> rw [h]
    · exact hl.ids_nodup
    · simpa [List.nodup_append] using ⟨hl.ids_nodup, fun i hi heq => hnew (heq ▸ hi)⟩
  · have hold : ∀ s ∈ l.entries.map (e.act l), ∀ t ∈ l.entries.map (e.act l),
        s.isActive → t.isActive → s = t := by
      simp only [List.mem_map]
      rintro _ ⟨s, hs, rfl⟩ _ ⟨t, ht, rfl⟩ has hat
      rw [act_active hl hs ht e has hat]
    rcases step_entries hl e with h | ⟨d, now, id, -, -, -, h⟩ <;> rw [h]
    · exact hold
    · -- the entry added is a draft
      have hin : ∀ s ∈ l.entries.map (e.act l) ++ [SavedStrategy.first id d now], s.isActive →
          s ∈ l.entries.map (e.act l) := by
        intro s hs hactive
        rcases List.mem_append.1 hs with hs | hs
        · exact hs
        · rw [List.mem_singleton.1 hs] at hactive
          cases hactive
      exact fun s hs t ht has hat => hold s (hin s hs has) t (hin t ht hat) has hat

end Library

end Dunning
