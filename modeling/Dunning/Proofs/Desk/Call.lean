import Dunning.Desk.Basic
import Dunning.Proofs.Library.Change

/-!
# Proofs/Desk/Call — the calls that may change a desk, as one step function

A call does at most two things: it changes the library, and it applies the strategy then active to a
list of accounts, which becomes the queue.  `Call.library` is the first, `Call.accounts?` the list
of the second, and `Desk.run_ends` says that this is all:

    library ──c.library──▸ library'      queue ──strategy of library' on c.accounts?──▸ queue'

The second is all that an outage stops (`Call.Blocked`).
-/

namespace Dunning

/-- A call that may change a desk, with its arguments. -/
inductive Call where
  | load (triggeredBy : String) (accounts : List Account)
  | apply (triggeredBy : String)
  | importUpdates (triggeredBy : String) (updates : List Update)
  | save (triggeredBy : String) (now : Instant) (draft : Draft)
  | activate (triggeredBy : String) (now : Instant) (id : String)
  | deactivate (triggeredBy : String) (now : Instant)

/-- What a call answers that succeeds. -/
inductive Answer where
  | applied (report : Report)
  | imported (report : ImportReport)
  | saved (strategy : SavedStrategy)
  | activated (strategy : SavedStrategy) (report : Report)

/-- Nothing of the store is out of reach. -/
def Outage.clear : Outage := ⟨false, false⟩

/-- The same reply, as an answer of another type. -/
def Desk.Reply.mapAnswer {α β : Type} (f : α → β) (r : Desk.Reply α) : Desk.Reply β :=
  (r.1.map f, r.2)

theorem Desk.Reply.mapAnswer_mapAnswer {α β γ : Type} (f : α → β) (g : β → γ) (r : Desk.Reply α) :
    (r.mapAnswer f).mapAnswer g = r.mapAnswer fun a => g (f a) := by
  obtain ⟨answer, d⟩ := r
  cases answer <;> rfl

/-- Carries out a call while some of the store may be out of reach. -/
def Desk.run (d : Desk) (o : Outage) : Call → Desk.Reply Answer
  | .load who accounts => (d.load o who accounts).mapAnswer .applied
  | .apply who => (d.apply o who).mapAnswer .applied
  | .importUpdates who updates => (d.importUpdates o who updates).mapAnswer .imported
  | .save who now draft => (d.save o who now draft).mapAnswer .saved
  | .activate who now id => (d.activate o who now id).mapAnswer fun r => .activated r.1 r.2
  | .deactivate who now => (d.deactivate o who now).mapAnswer .applied

namespace Call

/-- The library a call leaves. -/
def library (l : Library) : Call → Library
  | .load .. | .apply .. | .importUpdates .. => l
  | .save _ now draft => (l.save draft now).2
  | .activate _ now id =>
    match l.activate id now with
    | .ok (_, l') => l'
    | .error _ => l
  | .deactivate _ now => (l.deactivate now).2

/-- The accounts to which a call applies the active strategy, if it comes to that. -/
def accounts? (d : Desk) : Call → Option (List Account)
  | .load _ accounts => some accounts
  | .apply _ | .deactivate .. => some d.queue
  | .importUpdates _ updates =>
    let merge := Update.merge d.queue updates
    if merge.updated = 0 then none else some merge.accounts
  | .save _ now draft => if (d.library.save draft now).1.isActive then some d.queue else none
  | .activate _ _ id => if (d.library.get? id).isSome then some d.queue else none

/-- The call needs to read the store. -/
def reads (d : Desk) : Call → Bool
  | .load .. => false
  | .apply _ | .importUpdates .. | .deactivate .. => true
  | .save _ now draft => (d.library.save draft now).1.isActive
  | .activate _ _ id => (d.library.get? id).isSome

/-- The call needs something of the store that is out of reach. -/
def Blocked (c : Call) (o : Outage) (d : Desk) : Prop :=
  (o.reads = true ∧ c.reads d = true) ∨ (o.writes = true ∧ (c.accounts? d).isSome = true)

/-- The library refuses: the call is to activate an entry that there is not. -/
def Unknown (l : Library) : Call → Prop
  | .activate _ _ id => l.get? id = none
  | _ => False

end Call

namespace Desk

variable {d : Desk} {o : Outage}

/-- The desk with another library. -/
def withLibrary (d : Desk) (l : Library) : Desk := { d with library := l }

/-- The desk with accounts for its queue, the active strategy applied to them. -/
def withQueue (d : Desk) (accounts : List Account) : Desk :=
  { d with queue := d.activeStrategy.1.reapply accounts }

/-- The desk after a call that nothing stops. -/
def settled (d : Desk) (c : Call) : Desk :=
  match c.accounts? d with
  | some accounts => (d.withLibrary (c.library d.library)).withQueue accounts
  | none => d.withLibrary (c.library d.library)

@[simp] theorem withLibrary_self (d : Desk) : d.withLibrary d.library = d := rfl

@[simp] theorem withLibrary_queue (d : Desk) (l : Library) :
    (d.withLibrary l).queue = d.queue := rfl

theorem withLibrary_eq_self_iff {l : Library} : d.withLibrary l = d ↔ l = d.library :=
  ⟨congrArg library, fun h => by rw [h, withLibrary_self]⟩

/-! ## Storing -/

theorem store_offline (who : String) (accounts : List Account) (h : o.writes = true) :
    d.store o who accounts = (.error .writesOffline, d) := by simp [store, h]

theorem store_online (who : String) (accounts : List Account) (h : o.writes = false) :
    ∃ report, d.store o who accounts = (.ok report, d.withQueue accounts) := by
  simp [store, h, withQueue]

theorem apply_offline (who : String) (h : o.reads = true ∨ o.writes = true) :
    ∃ what, d.apply o who = (.error (.unavailable what), d) := by
  cases hr : o.reads with
  | true => exact ⟨_, by simp only [apply, hr, if_true]; rfl⟩
  | false =>
    have hw : o.writes = true := by simpa [hr] using h
    exact ⟨_, by simp only [apply, hr, store_offline who d.queue hw]; rfl⟩

theorem apply_online (who : String) (hr : o.reads = false) (hw : o.writes = false) :
    ∃ report, d.apply o who = (.ok report, d.withQueue d.queue) := by
  simpa [apply, hr] using store_online who d.queue hw

/-! ## What a call can do -/

/-- The three ends of a call: refused by the library, stopped by an outage after the library has
been changed, or carried out. -/
inductive Ends (d : Desk) (o : Outage) (c : Call) : Reply Answer → Prop
  | refused {fault : LibraryFault} (h : c.Unknown d.library) :
      Ends d o c (.error (.library fault), d)
  | stopped {what : String} (h : c.Blocked o d) :
      Ends d o c (.error (.unavailable what), d.withLibrary (c.library d.library))
  | done {answer : Answer} (hu : ¬ c.Unknown d.library) (hb : ¬ c.Blocked o d) :
      Ends d o c (.ok answer, d.settled c)

variable {c : Call}

/-- A call whose last act is to apply the active strategy to the queue. -/
theorem ends_of_apply (who : String) (answer : Report → Answer)
    (hrun : d.run o c = ((d.withLibrary (c.library d.library)).apply o who).mapAnswer answer)
    (hu : ¬ c.Unknown d.library) (ha : c.accounts? d = some d.queue) (hr : c.reads d = true) :
    Ends d o c (d.run o c) := by
  by_cases hb : o.reads = true ∨ o.writes = true
  · have hblocked : c.Blocked o d := hb.imp (fun h => ⟨h, hr⟩) fun h => ⟨h, by rw [ha]; rfl⟩
    obtain ⟨what, h⟩ := apply_offline (d := d.withLibrary (c.library d.library)) who hb
    rw [hrun, h]
    exact .stopped hblocked
  · have hfree : ¬ c.Blocked o d := fun h => hb (h.imp And.left And.left)
    simp only [not_or, Bool.not_eq_true] at hb
    obtain ⟨report, h⟩ := apply_online (d := d.withLibrary (c.library d.library)) who hb.1 hb.2
    have hs : d.settled c = (d.withLibrary (c.library d.library)).withQueue d.queue := by
      simp only [settled, ha]
    rw [hrun, h, withLibrary_queue, ← hs]
    exact .done hu hfree

/-- A call whose last act is to store accounts, and which changes no library. -/
theorem ends_of_store (who : String) (accounts : List Account) (answer : Report → Answer)
    (hrun : d.run o c = (d.store o who accounts).mapAnswer answer)
    (hl : c.library d.library = d.library) (hu : ¬ c.Unknown d.library)
    (ha : c.accounts? d = some accounts) (hr : ¬ (o.reads = true ∧ c.reads d = true)) :
    Ends d o c (d.run o c) := by
  cases hw : o.writes with
  | true =>
    have hblocked : c.Blocked o d := .inr ⟨hw, by rw [ha]; rfl⟩
    have h : Ends d o c (.error .writesOffline, d.withLibrary (c.library d.library)) :=
      .stopped hblocked
    rw [hl, withLibrary_self] at h
    rwa [hrun, store_offline who accounts hw]
  | false =>
    have hfree : ¬ c.Blocked o d := fun h => h.elim hr fun h => by simp [hw] at h
    obtain ⟨report, h⟩ := store_online (d := d) who accounts hw
    have hs : d.settled c = d.withQueue accounts := by
      simp only [settled, ha, hl, withLibrary_self]
    rw [hrun, h, ← hs]
    exact .done hu hfree

/-- An import that is in reach and names an account stores what it makes of the queue. -/
theorem run_importUpdates (who : String) {updates : List Update} (hr : o.reads = false)
    (hm : (Update.merge d.queue updates).updated ≠ 0) :
    d.run o (.importUpdates who updates) =
      (d.store o who (Update.merge d.queue updates).accounts).mapAnswer fun r =>
        .imported ⟨updates.length, (Update.merge d.queue updates).updated,
          (Update.merge d.queue updates).unmatched, some r⟩ := by
  rw [run, importUpdates, hr, if_neg Bool.false_ne_true, if_neg hm]
  exact Reply.mapAnswer_mapAnswer _ _ (d.store o who (Update.merge d.queue updates).accounts)

theorem importUpdates_ends (d : Desk) (o : Outage) (who : String) (updates : List Update) :
    Ends d o (.importUpdates who updates) (d.run o (.importUpdates who updates)) := by
  cases hr : o.reads with
  | true =>
    have h : d.run o (.importUpdates who updates) = (.error .readsOffline, d) := by
      simp [run, importUpdates, hr, Reply.mapAnswer, Except.map]
    rw [h]
    exact .stopped (.inl ⟨hr, rfl⟩)
  | false =>
    by_cases hm : (Update.merge d.queue updates).updated = 0
    · have ha : (Call.importUpdates who updates).accounts? d = none := by
        simp [Call.accounts?, hm]
      have hs : d.settled (.importUpdates who updates) = d := by
        simp [settled, ha, Call.library]
      obtain ⟨answer, h⟩ : ∃ answer, d.run o (.importUpdates who updates) = (.ok answer, d) := by
        simp [run, importUpdates, hr, hm, Reply.mapAnswer, Except.map]
      have hdone : Ends d o (.importUpdates who updates) (.ok answer, d.settled _) :=
        .done id (by simp [Call.Blocked, hr, ha])
      rwa [hs, ← h] at hdone
    · have ha : (Call.importUpdates who updates).accounts? d =
          some (Update.merge d.queue updates).accounts := by simp [Call.accounts?, hm]
      exact ends_of_store who _ _ (run_importUpdates who hr hm) rfl id ha (by simp [hr])

theorem save_ends (d : Desk) (o : Outage) (who : String) (now : Instant) (draft : Draft) :
    Ends d o (.save who now draft) (d.run o (.save who now draft)) := by
  cases hs : (d.library.save draft now).1.isActive with
  | true =>
    refine ends_of_apply who (fun _ => .saved (d.library.save draft now).1) ?_ id
      (by simp [Call.accounts?, hs]) (by simpa [Call.reads] using hs)
    simp only [run, save, hs, if_true]
    exact Reply.mapAnswer_mapAnswer _ _ ((d.withLibrary (d.library.save draft now).2).apply o who)
  | false =>
    have ha : (Call.save who now draft).accounts? d = none := by simp [Call.accounts?, hs]
    have hd : d.settled (.save who now draft) = d.withLibrary (d.library.save draft now).2 := by
      simp only [settled, ha, Call.library]
    have h : d.run o (.save who now draft) = (.ok (.saved (d.library.save draft now).1),
        d.withLibrary (d.library.save draft now).2) := by
      simp only [run, save, hs, Reply.mapAnswer]
      rfl
    rw [h, ← hd]
    exact .done id (by simp [Call.Blocked, Call.reads, ha, hs])

/-- An activation that the library accepts applies the strategy to the queue. -/
theorem run_activate (who : String) {now : Instant} {id : String} {saved : SavedStrategy}
    {l : Library} (hok : d.library.activate id now = .ok (saved, l)) :
    d.run o (.activate who now id) =
      ((d.withLibrary l).apply o who).mapAnswer fun r => .activated saved r := by
  simp only [run, activate, hok]
  exact Reply.mapAnswer_mapAnswer _ _ ((d.withLibrary l).apply o who)

theorem activate_ends (d : Desk) (o : Outage) (who : String) (now : Instant) (id : String) :
    Ends d o (.activate who now id) (d.run o (.activate who now id)) := by
  rcases d.library.activate_cases id now with ⟨hn, he⟩ | ⟨before, s, after, he, hid, hb, hok⟩
  · have h : d.run o (.activate who now id) = (.error (.library (.notFound id)), d) := by
      simp only [run, activate, he]
      rfl
    rw [h]
    exact .refused hn
  · have hg : (d.library.get? id).isSome = true := by
      rw [Library.get?_split he hid hb]
      rfl
    have hu : ¬ (Call.activate who now id).Unknown d.library := fun hn => by
      rw [Call.Unknown] at hn
      simp [hn] at hg
    refine ends_of_apply who (fun r => .activated (s.promote now) r) ?_ hu
      (by simp [Call.accounts?, hg]) hg
    simp only [Call.library, hok]
    exact run_activate who hok

/-- **Every call ends in one of the three ways.** -/
theorem run_ends (d : Desk) (o : Outage) : ∀ c : Call, Ends d o c (d.run o c)
  | .load who accounts => ends_of_store who accounts .applied rfl rfl id rfl (by simp [Call.reads])
  | .apply who => ends_of_apply who .applied rfl id rfl rfl
  | .importUpdates who updates => importUpdates_ends d o who updates
  | .save who now draft => save_ends d o who now draft
  | .activate who now id => activate_ends d o who now id
  | .deactivate who _ => ends_of_apply who .applied rfl id rfl rfl

end Desk

end Dunning
