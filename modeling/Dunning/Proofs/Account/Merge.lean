import Mathlib.Data.List.Basic
import Dunning.Account.Update

/-!
# Proofs/Account/Merge — what a merge makes of each account

An update goes to one place, that of the first account with the number it names:

    accounts    a₀    a₁           a₂
    updates     u → 1,  v → 2,  w → 1,  x → nowhere
    merged      a₀    a₁ + u + w   a₂ + v

No update changes a number, so the places stay while the merge goes on.  Each account gets the
updates for its place in their order, and none other (`Update.merge_accounts`), and the merge counts
the places that there are updates for (`Update.merge_updated`).  The numbers of updates that go
nowhere are kept in their order (`Update.merge_unmatched`).
-/

namespace Dunning

/-- What is counted in a list is counted by position. -/
theorem countP_eq_countP_range {α : Type} (p : α → Bool) (l : List α) :
    l.countP p = (List.range l.length).countP fun i => l[i]?.any p := by
  induction l with
  | nil => rfl
  | cons a l ih =>
    rw [List.countP_cons, ih, List.length_cons, List.range_succ_eq_map, List.countP_cons,
      List.countP_map]
    rfl

namespace Update

/-- Where an update goes: the position of the first account with the number it names. -/
def place? (u : Update) (accounts : List Account) : Option Nat :=
  accounts.findIdx? fun a => a.number == u.target

/-- The updates that go to a position. -/
def allFor (updates : List Update) (accounts : List Account) (i : Nat) : List Update :=
  updates.filter fun u => u.place? accounts == some i

/-- An account with the figures of updates, one after the other. -/
def applyEach (updates : List Update) (a : Account) : Account :=
  updates.foldl (fun a u => u.apply a) a

variable {u : Update} {accounts accounts' : List Account} {entries : List Entry} {i : Nat}
  {updates : List Update}

/-! ## One update -/

/-- Where updates go depends on the numbers alone. -/
theorem place?_congr (h : accounts.map Account.number = accounts'.map Account.number) :
    u.place? accounts = u.place? accounts' := by
  have hnumbers : ∀ as : List Account,
      u.place? as = (as.map Account.number).findIdx? (· == u.target) := fun as => by
    rw [List.findIdx?_map]
    rfl
  rw [hnumbers, hnumbers, h]

theorem place?_eq_some_iff : u.place? accounts = some i ↔
    ∃ a, accounts[i]? = some a ∧ a.number = u.target ∧
      ∀ b ∈ accounts.take i, b.number ≠ u.target := by
  rw [place?, List.findIdx?_eq_some_iff_getElem]
  constructor
  · rintro ⟨hi, hnumber, hbefore⟩
    refine ⟨accounts[i], List.getElem?_eq_getElem hi, beq_iff_eq.mp hnumber, fun b hb => ?_⟩
    obtain ⟨j, hj, rfl⟩ := List.mem_take_iff_getElem.mp hb
    exact fun h => hbefore j (by omega) (beq_iff_eq.mpr h)
  · rintro ⟨a, ha, hnumber, hbefore⟩
    obtain ⟨hi, rfl⟩ := List.getElem?_eq_some_iff.mp ha
    refine ⟨hi, beq_iff_eq.mpr hnumber, fun j hji h => ?_⟩
    exact hbefore _ (List.mem_take_iff_getElem.mpr ⟨j, by omega, rfl⟩) (beq_iff_eq.mp h)

theorem place?_eq_none_iff :
    u.place? accounts = none ↔ ∀ a ∈ accounts, a.number ≠ u.target := by
  simp [place?, List.findIdx?_eq_none_iff]

/-- An entry that an update has been applied to. -/
def mark (u : Update) (e : Entry) : Entry := ⟨u.apply e.account, true⟩

/-- The accounts of entries. -/
def accountsOf (entries : List Entry) : List Account := entries.map Entry.account

theorem applyTo_eq (u : Update) (entries : List Entry) :
    u.applyTo entries = (u.place? (accountsOf entries)).map fun i => entries.modify i u.mark := by
  induction entries with
  | nil => rfl
  | cons e entries ih =>
    rw [applyTo, place?, accountsOf, List.map_cons, List.findIdx?_cons]
    by_cases h : e.account.number = u.target
    · simp [h, mark]
    · rw [if_neg h, if_neg (by simpa using h), ih, Option.map_map, Option.map_map]
      exact congrFun (congrArg _ (funext fun i => by simp)) _

/-- The entries after an update, which may go nowhere. -/
def deliver (u : Update) (entries : List Entry) : List Entry :=
  (u.applyTo entries).getD entries

theorem getElem?_deliver (u : Update) (entries : List Entry) (i : Nat) :
    (u.deliver entries)[i]? = entries[i]?.map fun e =>
      if u.place? (accountsOf entries) == some i then u.mark e else e := by
  rw [deliver, applyTo_eq]
  cases u.place? (accountsOf entries) with
  | none => simp
  | some j => simp [List.getElem?_modify]

/-- **An update leaves numbers alone.** -/
theorem map_number_deliver (u : Update) (entries : List Entry) :
    (accountsOf (u.deliver entries)).map Account.number =
      (accountsOf entries).map Account.number := by
  have hmark : ∀ (b : Bool) (e : Entry),
      (if b then u.mark e else e).account.number = e.account.number := fun b e => by
    cases b <;> rfl
  refine List.ext_getElem? fun i => ?_
  rw [accountsOf, List.map_map, List.getElem?_map, getElem?_deliver, Option.map_map, accountsOf,
    List.map_map, List.getElem?_map]
  exact congrFun (congrArg _ (funext fun e => hmark _ e)) _

/-! ## All updates -/

theorem applyAll_cons (u : Update) (updates : List Update) (entries : List Entry) :
    (applyAll (u :: updates) entries).1 = (applyAll updates (u.deliver entries)).1 := by
  rw [applyAll, deliver]
  cases u.applyTo entries <;> rfl

/-- **Each entry gets the updates for its place.** -/
theorem getElem?_applyAll
    (h : (accountsOf entries).map Account.number = accounts.map Account.number) (i : Nat) :
    (applyAll updates entries).1[i]? =
      entries[i]?.map fun e => (allFor updates accounts i).foldl (fun e u => u.mark e) e := by
  induction updates generalizing entries with
  | nil => simp [applyAll, allFor]
  | cons u updates ih =>
    have hfor : ∀ e, (allFor (u :: updates) accounts i).foldl (fun e u => u.mark e) e =
        (allFor updates accounts i).foldl (fun e u => u.mark e)
          (if u.place? accounts == some i then u.mark e else e) := fun e => by
      rw [allFor, List.filter_cons]
      split_ifs <;> rfl
    rw [applyAll_cons, ih ((map_number_deliver u entries).trans h), getElem?_deliver,
      place?_congr h, Option.map_map]
    exact congrFun (congrArg _ (funext fun e => (hfor e).symm)) _

theorem foldl_mark (updates : List Update) (e : Entry) :
    updates.foldl (fun e u => u.mark e) e =
      ⟨applyEach updates e.account, e.named || !updates.isEmpty⟩ := by
  induction updates generalizing e with
  | nil => simp [applyEach]
  | cons u updates ih =>
    rw [List.foldl_cons, ih]
    simp [mark, applyEach]

/-- The entries at the end of a merge. -/
theorem getElem?_merged (updates : List Update) (accounts : List Account) (i : Nat) :
    (applyAll updates (accounts.map fun a => ⟨a, false⟩)).1[i]? = accounts[i]?.map fun a =>
      ⟨applyEach (allFor updates accounts i) a, !(allFor updates accounts i).isEmpty⟩ := by
  have h : (accountsOf (accounts.map fun a => ⟨a, false⟩)).map Account.number =
      accounts.map Account.number := by simp [accountsOf]
  rw [getElem?_applyAll h, List.getElem?_map, Option.map_map]
  exact congrFun (congrArg _ (funext fun a => by simp [foldl_mark])) _

/-- **A merge applies to each account the updates for its place**, in their order. -/
theorem merge_accounts (accounts : List Account) (updates : List Update) :
    (merge accounts updates).accounts =
      accounts.mapIdx fun i a => applyEach (allFor updates accounts i) a := by
  refine List.ext_getElem? fun i => ?_
  rw [merge, List.getElem?_map, getElem?_merged, Option.map_map, List.getElem?_mapIdx]
  rfl

/-- **A merge counts the places that there are updates for.** -/
theorem merge_updated (accounts : List Account) (updates : List Update) :
    (merge accounts updates).updated =
      (List.range accounts.length).countP fun i => !(allFor updates accounts i).isEmpty := by
  have hlength : (applyAll updates (accounts.map fun a => ⟨a, false⟩)).1.length =
      accounts.length := by
    have h := congrArg List.length (merge_accounts accounts updates)
    simpa [merge] using h
  have hcount : (merge accounts updates).updated =
      (applyAll updates (accounts.map fun a => ⟨a, false⟩)).1.countP Entry.named :=
    List.countP_eq_length_filter.symm
  rw [hcount, countP_eq_countP_range, hlength]
  refine List.countP_congr fun i hi => ?_
  rw [getElem?_merged, List.getElem?_eq_getElem (List.mem_range.1 hi)]
  rfl

theorem applyAll_cons_unmatched (u : Update) (updates : List Update) (entries : List Entry) :
    (applyAll (u :: updates) entries).2 =
      (if (u.place? (accountsOf entries)).isNone then [u.target] else []) ++
        (applyAll updates (u.deliver entries)).2 := by
  rw [applyAll, deliver, applyTo_eq]
  cases u.place? (accountsOf entries) <;> rfl

theorem applyAll_unmatched
    (h : (accountsOf entries).map Account.number = accounts.map Account.number) :
    (applyAll updates entries).2 =
      (updates.filter fun u => (u.place? accounts).isNone).map target := by
  induction updates generalizing entries with
  | nil => rfl
  | cons u updates ih =>
    rw [applyAll_cons_unmatched, ih ((map_number_deliver u entries).trans h), place?_congr h,
      List.filter_cons]
    split_ifs <;> rfl

/-- **A merge keeps the numbers of the updates that go nowhere**, in their order. -/
theorem merge_unmatched (accounts : List Account) (updates : List Update) :
    (merge accounts updates).unmatched =
      (updates.filter fun u => (u.place? accounts).isNone).map target :=
  applyAll_unmatched (by simp [accountsOf])

end Update

end Dunning
