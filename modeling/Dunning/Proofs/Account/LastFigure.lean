import Dunning.Proofs.Account.Merge

/-!
# Proofs/Account/LastFigure — the last figure wins

The updates for an account write over each other figure by figure, so of each figure the last one
that is brought remains, and of those that none brings the one there was:

    account            balance 100    days 10    paid –
    updates            balance  80               paid 20
                                      days 12
                       balance  60
    merged             balance  60    days 12    paid 20

From this, and from the fact that a merge leaves all numbers alone, it follows how merges compose:
two merges are one merge of both lists of updates, a merge that is made again changes nothing, and
updates for different numbers may change places.
-/

namespace Dunning

/-- No account before this place has the same number. -/
def Account.IsFirst (accounts : List Account) (i : Nat) (a : Account) : Prop :=
  ∀ b ∈ accounts.take i, b.number ≠ a.number

instance (accounts : List Account) (i : Nat) (a : Account) :
    Decidable (a.IsFirst accounts i) :=
  inferInstanceAs (Decidable (∀ b ∈ accounts.take i, b.number ≠ a.number))

namespace Update

variable {α : Type} {u v : Update} {accounts : List Account} {i : Nat} {a : Account}
  {updates : List Update}

/-! ## One figure -/

/-- The figure that the last of the updates to bring one brings, or else the one there is. -/
def lastFigure (figure : Update → Option α) (updates : List Update) (old : Option α) : Option α :=
  (updates.reverse.findSome? figure).or old

theorem orElse_eq_or (new old : Option α) : orElse new old = new.or old := by
  cases new <;> rfl

theorem lastFigure_cons (figure : Update → Option α) (u : Update) (updates : List Update)
    (old : Option α) :
    lastFigure figure (u :: updates) old = lastFigure figure updates (orElse (figure u) old) := by
  rw [lastFigure, List.reverse_cons, List.findSome?_append, Option.or_assoc, orElse_eq_or,
    lastFigure, List.findSome?_singleton]

/-- **What has been written last stays when the same is written again.** -/
theorem lastFigure_lastFigure (figure : Update → Option α) (updates : List Update)
    (old : Option α) :
    lastFigure figure updates (lastFigure figure updates old) = lastFigure figure updates old := by
  simp only [lastFigure, ← Option.or_assoc, Option.or_self]

/-! ## One account -/

/-- An account with the last figures of updates. -/
def withLast (updates : List Update) (a : Account) : Account :=
  { a with
    balance := lastFigure Update.balance updates a.balance
    lastPaymentAmount := lastFigure Update.lastPaymentAmount updates a.lastPaymentAmount
    lastPaymentDate := lastFigure Update.lastPaymentDate updates a.lastPaymentDate
    daysInArrears := lastFigure Update.daysInArrears updates a.daysInArrears }

/-- **Updates applied one after the other leave the last figure of each kind.** -/
theorem applyEach_eq_withLast (updates : List Update) (a : Account) :
    applyEach updates a = withLast updates a := by
  induction updates generalizing a with
  | nil => rfl
  | cons u updates ih =>
    rw [applyEach, List.foldl_cons, ← applyEach, ih]
    simp only [withLast, lastFigure_cons]
    rfl

theorem applyEach_applyEach (updates : List Update) (a : Account) :
    applyEach updates (applyEach updates a) = applyEach updates a := by
  simp only [applyEach_eq_withLast, withLast, lastFigure_lastFigure]

theorem applyEach_number (updates : List Update) (a : Account) :
    (applyEach updates a).number = a.number := by
  rw [applyEach_eq_withLast]
  rfl

/-! ## Which updates an account gets -/

theorem place?_eq_some_iff_isFirst (ha : accounts[i]? = some a) :
    u.place? accounts = some i ↔ u.target = a.number ∧ a.IsFirst accounts i := by
  rw [place?_eq_some_iff]
  constructor
  · rintro ⟨b, hb, hnumber, hbefore⟩
    obtain rfl : a = b := Option.some.inj (ha.symm.trans hb)
    exact ⟨hnumber.symm, fun c hc => hnumber ▸ hbefore c hc⟩
  · rintro ⟨hnumber, hfirst⟩
    exact ⟨a, ha, hnumber.symm, fun b hb => hnumber ▸ hfirst b hb⟩

/-- The first account with its number gets the updates for this number, any other gets none. -/
theorem allFor_eq (ha : accounts[i]? = some a) :
    allFor updates accounts i =
      if a.IsFirst accounts i then updates.filter fun u => u.target = a.number else [] := by
  have hgoes : ∀ u : Update, (u.place? accounts == some i) =
      decide (u.target = a.number ∧ a.IsFirst accounts i) := fun u => by
    rw [Bool.eq_iff_iff, beq_iff_eq, place?_eq_some_iff_isFirst ha, decide_eq_true_iff]
  rw [allFor, List.filter_congr fun u _ => hgoes u]
  split_ifs with hfirst <;> simp [hfirst]

theorem map_number_merge (accounts : List Account) (updates : List Update) :
    (merge accounts updates).accounts.map Account.number = accounts.map Account.number := by
  rw [merge_accounts]
  refine List.ext_getElem? fun i => ?_
  rw [List.getElem?_map, List.getElem?_mapIdx, Option.map_map, List.getElem?_map]
  exact congrFun (congrArg _ (funext fun a => applyEach_number _ a)) _

/-- **The last figure wins.**  A merge leaves every account in its place.  The first account with a
number has, of each of the four figures, the one that the last update of this number to bring it
brings, or its own if none does, and all else as before; no other account changes.  An update names
the first account that has its number: the merge counts the accounts that are named, and keeps the
numbers of exactly the updates that name none, in order and as often as they occur. -/
theorem merge_last_figure_wins (accounts : List Account) (updates : List Update) :
    ((merge accounts updates).accounts = accounts.mapIdx fun i a =>
      if a.IsFirst accounts i then
        let own := updates.filter fun u => u.target = a.number
        { a with
          balance := lastFigure Update.balance own a.balance
          lastPaymentAmount := lastFigure Update.lastPaymentAmount own a.lastPaymentAmount
          lastPaymentDate := lastFigure Update.lastPaymentDate own a.lastPaymentDate
          daysInArrears := lastFigure Update.daysInArrears own a.daysInArrears }
      else a) ∧
    (merge accounts updates).updated = (accounts.zipIdx.countP fun (a, i) =>
      a.IsFirst accounts i ∧ ∃ u ∈ updates, u.target = a.number) ∧
    (merge accounts updates).unmatched =
      (updates.filter fun u => ∀ a ∈ accounts, a.number ≠ u.target).map target := by
  refine ⟨?_, ?_, ?_⟩
  · rw [merge_accounts, List.mapIdx_eq_mapIdx_iff]
    intro i hi
    rw [allFor_eq (List.getElem?_eq_getElem hi)]
    split_ifs
    · exact applyEach_eq_withLast _ _
    · rfl
  · rw [merge_updated, countP_eq_countP_range _ accounts.zipIdx, List.length_zipIdx]
    refine List.countP_congr fun i hi => ?_
    have ha := List.getElem?_eq_getElem (List.mem_range.mp hi)
    rw [allFor_eq ha, List.getElem?_zipIdx, ha]
    split_ifs with hfirst <;> simp [hfirst, List.filter_eq_nil_iff]
  · rw [merge_unmatched]
    refine congrArg _ (List.filter_congr fun u _ => ?_)
    rw [Bool.eq_iff_iff, Option.isNone_iff_eq_none, place?_eq_none_iff, decide_eq_true_iff]

/-! ## Merges one after the other -/

section Numbers

variable {accounts' : List Account} (h : accounts.map Account.number = accounts'.map Account.number)

include h

theorem allFor_congr : allFor updates accounts i = allFor updates accounts' i :=
  List.filter_congr fun u _ => by rw [place?_congr h]

theorem merge_updated_congr :
    (merge accounts updates).updated = (merge accounts' updates).updated := by
  have hlength : accounts.length = accounts'.length := by simpa using congrArg List.length h
  rw [merge_updated, merge_updated, hlength]
  exact List.countP_congr fun i _ => by rw [allFor_congr h]

theorem merge_unmatched_congr :
    (merge accounts updates).unmatched = (merge accounts' updates).unmatched := by
  rw [merge_unmatched, merge_unmatched]
  exact congrArg _ (List.filter_congr fun u _ => by rw [place?_congr h])

end Numbers

theorem merge_merge_accounts (accounts : List Account) (earlier later : List Update) :
    (merge (merge accounts earlier).accounts later).accounts =
      accounts.mapIdx fun i a =>
        applyEach (allFor later accounts i) (applyEach (allFor earlier accounts i) a) := by
  have hfor : ∀ i, allFor later (merge accounts earlier).accounts i = allFor later accounts i :=
    fun i => allFor_congr (map_number_merge accounts earlier)
  rw [merge_accounts (merge accounts earlier).accounts, funext hfor, merge_accounts accounts,
    List.mapIdx_mapIdx]
  rfl

/-- **Two merges are one merge of both lists of updates.** -/
theorem merge_accounts_append (accounts : List Account) (earlier later : List Update) :
    (merge (merge accounts earlier).accounts later).accounts =
      (merge accounts (earlier ++ later)).accounts := by
  rw [merge_merge_accounts, merge_accounts]
  refine List.mapIdx_eq_mapIdx_iff.mpr fun i hi => ?_
  rw [allFor, allFor, allFor, List.filter_append]
  exact (List.foldl_append ..).symm

theorem merge_unmatched_append (accounts : List Account) (earlier later : List Update) :
    (merge accounts (earlier ++ later)).unmatched =
      (merge accounts earlier).unmatched ++ (merge accounts later).unmatched := by
  rw [merge_unmatched, merge_unmatched, merge_unmatched, List.filter_append, List.map_append]

/-- An account cannot be the one that updates for different numbers go to. -/
theorem allFor_swap (h : u.target ≠ v.target) (before after : List Update) :
    allFor (before ++ u :: v :: after) accounts i =
      allFor (before ++ v :: u :: after) accounts i := by
  have hboth : u.place? accounts = some i → v.place? accounts ≠ some i := fun hu hv => by
    obtain ⟨a, ha, hnumber, -⟩ := place?_eq_some_iff.mp hu
    obtain ⟨b, hb, hnumber', -⟩ := place?_eq_some_iff.mp hv
    obtain rfl : a = b := Option.some.inj (ha.symm.trans hb)
    exact h (hnumber.symm.trans hnumber')
  simp only [allFor, List.filter_append, List.filter_cons, beq_iff_eq]
  split_ifs with hu hv
  · exact absurd hv (hboth hu)
  · rfl
  · rfl
  · rfl

/-- **Merges compose.**  To merge updates into what a merge has made is to merge both lists of
updates one after the other, and the numbers that nobody has are those of the one and then those of
the other.  A merge that is made again changes nothing and tells the same.  Neighbours for different
numbers may change places. -/
theorem merges_compose (accounts : List Account) (earlier later : List Update) :
    (merge (merge accounts earlier).accounts later).accounts =
        (merge accounts (earlier ++ later)).accounts ∧
      (merge accounts (earlier ++ later)).unmatched =
        (merge accounts earlier).unmatched ++
          (merge (merge accounts earlier).accounts later).unmatched ∧
      (merge (merge accounts earlier).accounts earlier).accounts =
        (merge accounts earlier).accounts ∧
      (merge (merge accounts earlier).accounts earlier).updated =
        (merge accounts earlier).updated ∧
      (merge (merge accounts earlier).accounts earlier).unmatched =
        (merge accounts earlier).unmatched ∧
      ∀ before u v after, u.target ≠ v.target →
        (merge accounts (before ++ u :: v :: after)).accounts =
          (merge accounts (before ++ v :: u :: after)).accounts := by
  have hnumbers := map_number_merge accounts earlier
  refine ⟨merge_accounts_append accounts earlier later, ?_, ?_, merge_updated_congr hnumbers,
    merge_unmatched_congr hnumbers, ?_⟩
  · rw [merge_unmatched_congr hnumbers, merge_unmatched_append]
  · rw [merge_merge_accounts, merge_accounts]
    exact List.mapIdx_eq_mapIdx_iff.mpr fun i hi => applyEach_applyEach _ _
  · intro before u v after h
    rw [merge_accounts, merge_accounts]
    exact List.mapIdx_eq_mapIdx_iff.mpr fun i hi => by rw [allFor_swap h]

/-- Three accounts, two of them under one number. -/
def ledger : List Account :=
  [{ Account.blank with id := "1", number := "A", balance := some 100 },
    { Account.blank with id := "2", number := "A" },
    { Account.blank with id := "3", number := "B", daysInArrears := some 10 }]

/-- Two updates for the first account, between which one for the last may stand or not. -/
theorem merges_compose_ledger :
    let paid : Update := { blank with number := " A ", balance := some 80 }
    let late : Update := { blank with number := "B", daysInArrears := some 12 }
    let settled : Update := { blank with number := "A", balance := some 0 }
    paid.target ≠ late.target ∧
      (merge ledger [paid, late, settled]).accounts =
        (merge ledger [late, paid, settled]).accounts ∧
      (merge ledger [paid, late, settled]).accounts.map Account.balance =
        [some 0, none, none] :=
  ⟨by decide +kernel,
    (merges_compose ledger [] []).2.2.2.2.2 [] _ _ [_] (by decide +kernel), by decide +kernel⟩

end Update

end Dunning
