import Mathlib.Data.List.Induction
import Dunning.Proofs.Library.Event

/-!
# Proofs/Library/History — what the entries of a library tell of its past

    events    ⋯  save d   ⋯   save d'   ⋯   activate   ⋯
    entry        version 1     version 2    active, and dated last

An entry comes into being with one event of a run, and every later one acts on it where it stands.
So its version counts the saves under its id, its date is that of the last event that touched it,
and the rest of it stays (`Library.entries_tell_their_history`).
-/

namespace Dunning

namespace Library

variable {l : Library} {s : SavedStrategy} {id : String} {events : List Event}

/-! ## A run of events -/

/-- A library, empty at first, after a run of events. -/
def ofRun (events : List Event) : Library := events.foldl step .empty

theorem ofRun_concat (events : List Event) (e : Event) :
    ofRun (events ++ [e]) = (ofRun events).step e := by
  simp [ofRun]

theorem sound_ofRun (events : List Event) : (ofRun events).Sound := by
  induction events using List.reverseRecOn with
  | nil => exact ⟨List.nodup_nil, fun _ h => absurd h List.not_mem_nil⟩
  | append_singleton events e ih => rw [ofRun_concat]; exact ih.step e

/-- No event of a run touches the entry with an id. -/
def Untouched (l : Library) (id : String) : List Event → Prop
  | [] => True
  | e :: events => ¬ e.Touches l id ∧ (l.step e).Untouched id events

theorem untouched_concat {e : Event} :
    l.Untouched id (events ++ [e]) ↔
      l.Untouched id events ∧ ¬ e.Touches (events.foldl step l) id := by
  induction events generalizing l with
  | nil => simp [Untouched]
  | cons f events ih => simp [Untouched, ih, and_assoc]

/-- One event of the run is the save that made the entry; its version counts the saves under its id
since. -/
def MadeIn (s : SavedStrategy) (events : List Event) : Prop :=
  ∃ before d now rest, events = before ++ .save d now :: rest ∧ s.id ∉ (ofRun before).ids ∧
    ((ofRun before).save d now).1.id = s.id ∧ s.createdAt = now ∧ s.createdBy = d.createdBy ∧
    s.version = 1 + rest.countP (Event.saves s.id)

/-- One event of the run is the last that saved, activated or demoted the entry, and gave it its
time. -/
def DatedIn (s : SavedStrategy) (events : List Event) : Prop :=
  ∃ before e rest, events = before ++ e :: rest ∧ e.Touches (ofRun before) s.id ∧
    s.updatedAt = e.time ∧ (ofRun (before ++ [e])).Untouched s.id rest

theorem MadeIn.act (h : MadeIn s events) (l : Library) (e : Event) :
    MadeIn (e.act l s) (events ++ [e]) := by
  obtain ⟨before, d, now, rest, rfl, hnew, hid, hat, hby, hversion⟩ := h
  have hafter := e.after_act l s
  refine ⟨before, d, now, rest ++ [e], by simp, ?_, ?_, ?_, ?_, ?_⟩
  · rwa [hafter.id]
  · rwa [hafter.id]
  · rwa [hafter.createdAt]
  · rwa [hafter.createdBy]
  · rw [e.act_version, hversion, hafter.id, List.countP_append, List.countP_singleton,
      Nat.add_assoc]

theorem DatedIn.act (h : DatedIn s events) (hs : s ∈ (ofRun events).entries)
    (e : Event) : DatedIn (e.act (ofRun events) s) (events ++ [e]) := by
  have hid := (e.after_act (ofRun events) s).id
  obtain ⟨htouched, huntouched⟩ := e.act_touches (sound_ofRun events) hs
  by_cases he : e.Touches (ofRun events) s.id
  · exact ⟨events, e, [], rfl, by rwa [hid], htouched he, trivial⟩
  · obtain ⟨before, f, rest, rfl, hf, htime, hrest⟩ := h
    rw [huntouched he]
    refine ⟨before, f, rest ++ [e], by simp, hf, htime, untouched_concat.2 ⟨hrest, ?_⟩⟩
    simpa [ofRun] using he

theorem history_of_entry (events : List Event) :
    ∀ s ∈ (ofRun events).entries, MadeIn s events ∧ DatedIn s events := by
  induction events using List.reverseRecOn with
  | nil => exact fun _ h => absurd h List.not_mem_nil
  | append_singleton events e ih =>
    have hold : ∀ s ∈ (ofRun events).entries.map (e.act (ofRun events)),
        MadeIn s (events ++ [e]) ∧ DatedIn s (events ++ [e]) := by
      simp only [List.mem_map]
      rintro _ ⟨s, hs, rfl⟩
      obtain ⟨hmade, hdated⟩ := ih s hs
      exact ⟨hmade.act _ e, hdated.act hs e⟩
    rw [ofRun_concat]
    rcases step_entries (sound_ofRun events) e with h | ⟨d, now, id, rfl, hnew, hsaved, h⟩ <;>
      rw [h]
    · exact hold
    · intro s hs
      rcases List.mem_append.1 hs with hs | hs
      · exact hold s hs
      · obtain rfl := List.mem_singleton.1 hs
        have hid : ((ofRun events).save d now).1.id = id := by rw [hsaved]; rfl
        exact ⟨⟨events, d, now, [], rfl, hnew, hid, rfl, rfl, rfl⟩,
          ⟨events, .save d now, [], rfl, hid, rfl, trivial⟩⟩

/-- **Entries stay where they are**, and keep their ids, the time of their making and
their maker. -/
theorem getElem?_ofRun_append {i : Nat}
    (hs : (ofRun events).entries[i]? = some s) (more : List Event) :
    ∃ t, (ofRun (events ++ more)).entries[i]? = some t ∧ s.Before t := by
  induction more using List.reverseRecOn with
  | nil => exact ⟨s, by simpa using hs, .refl s⟩
  | append_singleton more e ih =>
    obtain ⟨t, ht, hbefore⟩ := ih
    rw [← List.append_assoc, ofRun_concat]
    exact ⟨_, getElem?_step (sound_ofRun _) ht e, hbefore.trans (e.after_act _ t)⟩

/-- A version is a number of saves, so it stays below any bound on these. -/
theorem MadeIn.version_le (h : MadeIn s events) : s.version ≤ events.countP Event.isSave := by
  obtain ⟨before, d, now, rest, rfl, -, -, -, -, hversion⟩ := h
  have hle : rest.countP (Event.saves s.id) ≤ rest.countP Event.isSave := by
    refine List.countP_mono_left fun e _ he => ?_
    cases e with
    | save => rfl
    | _ => cases he
  rw [hversion, List.countP_append, List.countP_cons_of_pos (by rfl)]
  omega

/-! ## Activations and deactivations -/

theorem active?_eq_some (hl : l.Sound) (hs : s ∈ l.entries) (hactive : s.isActive) :
    l.active? = some s := by
  cases ha : l.active? with
  | none => exact absurd hactive (by simpa [active?] using List.find?_eq_none.1 ha s hs)
  | some t =>
    have ht := List.mem_of_find?_eq_some ha
    rw [hl.active_unique t ht s hs (List.find?_some ha) hactive]

theorem activate_ofRun (hid : id ∈ (ofRun events).ids) (now : Instant) :
    ∃ s, (ofRun events).activate id now = .ok (s, ofRun (events ++ [.activate id now])) ∧
      s.id = id ∧ (ofRun (events ++ [.activate id now])).active? = some s := by
  have hsound := sound_ofRun (events ++ [.activate id now])
  rw [ofRun_concat] at hsound ⊢
  rcases activate_cases (ofRun events) id now with ⟨hno, -⟩ | ⟨before, s, after, -, hs, -, h⟩
  · exact absurd hid (get?_isNone_iff.1 (by rw [hno]; rfl))
  · simp only [step, h] at hsound ⊢
    exact ⟨s.promote now, rfl, hs, active?_eq_some hsound (by simp) rfl⟩

theorem activate_unknown (hid : id ∉ l.ids) (now : Instant) :
    l.activate id now = .error (.notFound id) ∧ l.step (.activate id now) = l := by
  rcases activate_cases l id now with ⟨-, h⟩ | ⟨before, s, after, he, hs, -, -⟩
  · exact ⟨h, by simp only [step, h]⟩
  · exact absurd (id_mem_ids (s := s) (by simp [he])) (hs ▸ hid)

theorem deactivate_ofRun (events : List Event) (now : Instant) :
    (ofRun (events ++ [.deactivate now])).active? = none := by
  rw [ofRun_concat]
  rcases step_entries (sound_ofRun events) (.deactivate now) with h | ⟨d, time, id, he, -⟩
  · have hidle : ∀ s ∈ (ofRun events).entries, (s.demote now).isActive = false := fun s _ =>
      s.demote_isActive now
    simpa [active?, h, Event.act] using hidle
  · cases he

/-- **The entries of a library tell its history.**  After every run of events ids are distinct and
at most one entry is active: the one activated, after an activation that is not refused, and none
after a deactivation.  An activation of an unknown id is refused, and changes nothing.  An entry
keeps its place, its id, its maker and the time of its making in whatever follows, and does not
become a draft again.  Its version is one more than the number of saves under its id since the one
that made it, and its date is that of the last save, activation or demotion that touched it. -/
theorem entries_tell_their_history (events : List Event) :
    (ofRun events).ids.Nodup ∧
      (∀ s ∈ (ofRun events).entries, ∀ t ∈ (ofRun events).entries,
        s.status = .active → t.status = .active → s = t) ∧
      (∀ id now, id ∈ (ofRun events).ids →
        ∃ s, (ofRun events).activate id now = .ok (s, ofRun (events ++ [.activate id now])) ∧
          s.id = id ∧ (ofRun (events ++ [.activate id now])).active? = some s) ∧
      (∀ id now, id ∉ (ofRun events).ids →
        (ofRun events).activate id now = .error (.notFound id) ∧
          ofRun (events ++ [.activate id now]) = ofRun events) ∧
      (∀ now, (ofRun (events ++ [.deactivate now])).active? = none) ∧
      (∀ (i : Nat) (s : SavedStrategy) (more : List Event), (ofRun events).entries[i]? = some s →
        ∃ t, (ofRun (events ++ more)).entries[i]? = some t ∧ t.id = s.id ∧
          t.createdAt = s.createdAt ∧ t.createdBy = s.createdBy ∧
          (s.status ≠ .draft → t.status ≠ .draft)) ∧
      ∀ s ∈ (ofRun events).entries,
        MadeIn s events ∧ DatedIn s events ∧ s.version ≤ events.countP Event.isSave := by
  have hsound := sound_ofRun events
  refine ⟨hsound.ids_nodup, fun s hs t ht has hat => ?_, fun id now hid => activate_ofRun hid now,
    fun id now hid => ?_, deactivate_ofRun events, fun i s more hs => ?_, fun s hs => ?_⟩
  · exact hsound.active_unique s hs t ht (SavedStrategy.isActive_iff.2 has)
      (SavedStrategy.isActive_iff.2 hat)
  · rw [ofRun_concat]
    exact activate_unknown hid now
  · obtain ⟨t, ht, h⟩ := getElem?_ofRun_append hs more
    exact ⟨t, ht, h.id, h.createdAt, h.createdBy, h.no_draft⟩
  · obtain ⟨hmade, hdated⟩ := history_of_entry events s hs
    exact ⟨hmade, hdated, hmade.version_le⟩

end Library

end Dunning
