import Dunning.Proofs.Account.LastFigure
import Dunning.Proofs.Csv.Reading

/-!
# Proofs/Account/Spacing — blanks around account numbers

A merge drops the blanks around the number of an update, but not those around the number of an
account:

    account     "A-1"     "A-1"       " A-1"      " A-1"
    update      "A-1"     " A-1 "     "A-1"       " A-1"
                found     found       missed      missed

So an update finds an account just if one has its number without blanks around it
(`Update.update_finds_account_iff`).  Accounts that come from a table have it so
(`Account.trim_number_of_ofTable`); those of a document keep the blanks that stand there, and under
no spelling is such a number found.
-/

namespace Dunning

open Text

/-- **Numbers that come from a table have no blanks around them.** -/
theorem Account.trim_number_of_ofTable {bytes : List UInt8} {accounts : List Account}
    (h : Account.ofTable bytes = .ok accounts) : ∀ a ∈ accounts, trim a.number = a.number := by
  have hcolumns : ∀ c ∈ columns, c.Keeps fun a => trim a.number = a.number := by
    simp only [columns, List.forall_mem_cons]
    refine ⟨?_, ?_, ?_⟩
    · exact Column.make_keeps fun _ _ _ _ _ ha => ha
    · exact Column.make_keeps fun cell v a hcell hv _ => Except.ok.inj hv ▸ hcell
    · repeat refine ⟨Column.make_keeps fun _ _ _ _ _ ha => ha, ?_⟩
      exact fun c hc => absurd hc List.not_mem_nil
  have hblank : trim blank.number = blank.number := by decide +kernel
  cases hread : Csv.read columns blank bytes with
  | error _ => rw [Account.ofTable, hread] at h; cases h
  | ok read =>
    rw [Account.ofTable, hread] at h
    cases h
    refine List.forall_mem_map.mpr fun a ha => ?_
    have hnumber : trim a.number = a.number := by
      refine Csv.read_keeps ?_ hcolumns hread a ha
      exact hblank
    rw [identified]
    split_ifs <;> exact hnumber

namespace Update

variable {accounts : List Account} {u : Update} {i : Nat}

/-- An update alone changes the account it goes to. -/
theorem merge_singleton_of_some (h : u.place? accounts = some i) :
    (merge accounts [u]).accounts = accounts.modify i u.apply := by
  rw [merge_accounts]
  refine List.ext_getElem? fun j => ?_
  rw [List.getElem?_mapIdx, List.getElem?_modify]
  by_cases hij : i = j <;> simp [allFor, h, hij, applyEach]

/-- An update that goes nowhere is for no place. -/
theorem allFor_unplaced (h : u.place? accounts = none) (before after : List Update) (i : Nat) :
    allFor (before ++ u :: after) accounts i = allFor (before ++ after) accounts i := by
  simp [allFor, h]

/-- A number without blanks around it is found if an account has it so. -/
theorem exists_number_iff (accounts : List Account) (u : Update) :
    (∃ a ∈ accounts, trim a.number = trim u.number ∧ trim a.number = a.number) ↔
      ∃ a ∈ accounts, a.number = u.target := by
  refine exists_congr fun a => and_congr_right fun _ => ⟨fun ⟨h, ha⟩ => ha ▸ h, fun h => ?_⟩
  rw [h]
  exact ⟨trim_trim _, trim_trim _⟩

/-- Another update that goes nowhere cannot tell of this number unless this one goes nowhere too. -/
theorem target_mem_unmatched_iff (accounts : List Account) (before after : List Update)
    (u : Update) :
    u.target ∈ (merge accounts (before ++ u :: after)).unmatched ↔
      ∀ a ∈ accounts, a.number ≠ u.target := by
  rw [merge_unmatched, ← place?_eq_none_iff]
  constructor
  · intro h
    obtain ⟨v, hv, htarget⟩ := List.mem_map.mp h
    have hnone := (List.mem_filter.mp hv).2
    rw [Option.isNone_iff_eq_none, place?_eq_none_iff, htarget] at hnone
    exact place?_eq_none_iff.mpr hnone
  · intro h
    refine List.mem_map.mpr ⟨u, List.mem_filter.mpr ⟨by simp, ?_⟩, rfl⟩
    rw [h]
    rfl

/-- **An update finds an account just if one has its number without blanks around it.**  It is then
applied, in its turn, to the first that has, and its number is not among those that nobody has.
Otherwise it leaves no trace but its number there, also if an account has the very same number,
blanks included.  Where accounts come from a table, blanks make no difference. -/
theorem update_finds_account_iff (accounts : List Account) (before after : List Update)
    (u : Update) :
    ((∃ a ∈ accounts, trim a.number = trim u.number ∧ trim a.number = a.number) →
        trim u.number ∉ (merge accounts (before ++ u :: after)).unmatched ∧
          ∃ i a, (merge accounts before).accounts[i]? = some a ∧ a.number = trim u.number ∧
            a.IsFirst (merge accounts before).accounts i ∧
            (merge accounts (before ++ u :: after)).accounts =
              (merge ((merge accounts before).accounts.modify i u.apply) after).accounts) ∧
      ((∀ a ∈ accounts, trim a.number = trim u.number → trim a.number ≠ a.number) →
        trim u.number ∈ (merge accounts (before ++ u :: after)).unmatched ∧
          (merge accounts (before ++ u :: after)).accounts =
            (merge accounts (before ++ after)).accounts ∧
          (merge accounts (before ++ u :: after)).updated =
            (merge accounts (before ++ after)).updated) ∧
      ∀ bytes, Account.ofTable bytes = .ok accounts →
        (∃ a ∈ accounts, trim a.number = trim u.number) →
          ∃ a ∈ accounts, trim a.number = trim u.number ∧ trim a.number = a.number := by
  refine ⟨fun hfound => ?_, fun hmissed => ?_, fun bytes htable => ?_⟩
  · rw [exists_number_iff] at hfound
    obtain ⟨a, ha, hnumber⟩ := hfound
    refine ⟨fun h => ?_, ?_⟩
    · exact (target_mem_unmatched_iff accounts before after u).mp h a ha hnumber
    -- The updates before it have changed no number, so `u` goes where it would go alone.
    cases hplace : u.place? (merge accounts before).accounts with
    | none =>
      rw [place?_congr (map_number_merge accounts before)] at hplace
      exact absurd hnumber (place?_eq_none_iff.mp hplace a ha)
    | some i =>
      obtain ⟨b, hb, htarget, hbefore⟩ := place?_eq_some_iff.mp hplace
      refine ⟨i, b, hb, htarget, fun c hc => htarget ▸ hbefore c hc, ?_⟩
      rw [← merge_singleton_of_some hplace, merge_accounts_append, merge_accounts_append,
        List.singleton_append]
  · have hnone : ∀ a ∈ accounts, a.number ≠ u.target := fun a ha hnumber =>
      let ⟨b, hb, h⟩ := (exists_number_iff accounts u).mpr ⟨a, ha, hnumber⟩
      hmissed b hb h.1 h.2
    have hsame := allFor_unplaced (place?_eq_none_iff.mpr hnone) before after
    refine ⟨(target_mem_unmatched_iff accounts before after u).mpr hnone, ?_, ?_⟩
    · rw [merge_accounts, merge_accounts, funext hsame]
    · rw [merge_updated, merge_updated, funext hsame]
  · rintro ⟨a, ha, hnumber⟩
    exact ⟨a, ha, hnumber, Account.trim_number_of_ofTable htable a ha⟩

/-- The account of a table is found, blanks or not; one that has kept a blank is missed. -/
theorem update_finds_account_of_table :
    let a : Account := { Account.blank with id := "7", number := "A-1" }
    let spaced : Account := { Account.blank with id := "8", number := " A-1" }
    let u : Update := { blank with number := " A-1 ", balance := some 80 }
    let later : Update := { blank with number := "A-1", daysInArrears := some 12 }
    Account.ofTable "id,account_number\n7, A-1 \n".toUTF8.toList = .ok [a] ∧
      trim u.number ∉ (merge [a] ([later] ++ u :: [later])).unmatched ∧
      (merge [a] ([later] ++ u :: [later])).accounts.map Account.balance = [some 80] ∧
      trim u.number ∈ (merge [spaced] ([] ++ u :: [later])).unmatched := by
  intro a spaced u later
  have htable : Account.ofTable "id,account_number\n7, A-1 \n".toUTF8.toList = .ok [a] := by
    decide +kernel
  have hfound := (update_finds_account_iff [a] [later] [later] u).2.2 _ htable
    ⟨a, List.mem_singleton_self a, by decide +kernel⟩
  refine ⟨htable, ((update_finds_account_iff [a] [later] [later] u).1 hfound).1,
    by decide +kernel, ((update_finds_account_iff [spaced] [] [later] u).2.1 ?_).1⟩
  decide +kernel

/-- **A number with a blank before it is not found**, although the update names it letter by
letter. -/
theorem spaced_number_missed :
    let a : Account := { Account.blank with id := "1", number := " ACC-1" }
    let u : Update := { blank with number := " ACC-1", balance := some 5 }
    a.number = u.number ∧ (merge [a] [u]).unmatched = [trim u.number] ∧
      (merge [a] [u]).accounts = [a] := by
  decide +kernel

end Update

end Dunning
