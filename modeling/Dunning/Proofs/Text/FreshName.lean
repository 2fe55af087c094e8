import Mathlib.Data.List.Nodup
import Mathlib.Data.List.Perm.Subperm
import Mathlib.Order.Bounds.Basic

/-!
# Proofs/Text/FreshName — numbered names of which some are taken

    taken    name 3   name 4   name 9
    tried    name 3   name 4   name 5 ✓

If different numbers have different names, the names taken cannot be those of more numbers than they
are (`exists_untaken`).  So a loop that tries the numbers one by one ends, at the least number whose
name is free (`Finds.isLeast`), and a search with one try more than there are names taken ends where
the loop does (`finds_untaken`).
-/

namespace Dunning.Text

variable {name : Nat → String} {fuel n : Nat}

/-- **Of any numbers in a row that are more than the names taken, one has a free name.** -/
theorem exists_untaken (hname : Function.Injective name) (taken : List String) (n : Nat) :
    ∃ k, n ≤ k ∧ k ≤ n + taken.length ∧ name k ∉ taken := by
  by_contra hno
  push Not at hno
  have hnodup : ((List.range' n (taken.length + 1)).map name).Nodup :=
    List.Nodup.map hname (List.nodup_range' 1)
  have hsub : (List.range' n (taken.length + 1)).map name ⊆ taken := by
    intro s hs
    obtain ⟨k, hk, rfl⟩ := List.mem_map.1 hs
    rw [List.mem_range'_1] at hk
    exact hno k hk.1 (by omega)
  have hle := (hnodup.subperm hsub).length_le
  simp only [List.length_map, List.length_range'] at hle
  omega

/-- A loop that tries the numbers one by one, from the first one on, ends at the second.  Nothing
bounds the number of its tries. -/
inductive Finds (free : Nat → Prop) : Nat → Nat → Prop
  | here {n : Nat} (hn : free n) : Finds free n n
  | onward {n k : Nat} (hn : ¬ free n) (hrest : Finds free (n + 1) k) : Finds free n k

/-- **The loop ends at the least number that will do.** -/
theorem Finds.isLeast {free : Nat → Prop} {k : Nat} (h : Finds free n k) :
    IsLeast {j | n ≤ j ∧ free j} k := by
  induction h with
  | @here n hn => exact ⟨⟨Nat.le_refl n, hn⟩, fun j hj => hj.1⟩
  | @onward n k hn _ ih =>
    obtain ⟨⟨hle, hfree⟩, hleast⟩ := ih
    -- `n` will not do, so all that will lie beyond it
    refine ⟨⟨by omega, hfree⟩, fun j hj => hleast ⟨?_, hj.2⟩⟩
    exact Nat.lt_of_le_of_ne hj.1 fun heq => hn (heq ▸ hj.2)

/-- **A search with as many tries as it needs ends where the loop does.** -/
theorem finds_search {free : Nat → Prop} [DecidablePred free] {search : Nat → Nat → Nat}
    (hzero : ∀ n, search 0 n = n)
    (hsucc : ∀ fuel n, search (fuel + 1) n = if free n then n else search fuel (n + 1))
    (h : ∃ k, n ≤ k ∧ k ≤ n + fuel ∧ free k) : Finds free n (search fuel n) := by
  induction fuel generalizing n with
  | zero =>
    obtain ⟨k, hnk, hkn, hk⟩ := h
    obtain rfl : n = k := by omega
    rw [hzero]
    exact .here hk
  | succ fuel ih =>
    rw [hsucc]
    split_ifs with hn
    · exact .here hn
    · obtain ⟨k, hnk, hkn, hk⟩ := h
      -- the number that will do lies beyond `n`, which does not
      have hlt : n < k := Nat.lt_of_le_of_ne hnk fun heq => hn (heq ▸ hk)
      exact .onward hn (ih ⟨k, hlt, by omega, hk⟩)

/-- **A search for a free name with one try more than there are names taken ends where the loop
does**, and no further on than there are names. -/
theorem finds_untaken {free : Nat → Prop} [DecidablePred free] {search : Nat → Nat → Nat}
    {taken : List String} (hname : Function.Injective name) (hfree : ∀ k, free k ↔ name k ∉ taken)
    (hzero : ∀ n, search 0 n = n)
    (hsucc : ∀ fuel n, search (fuel + 1) n = if free n then n else search fuel (n + 1)) (n : Nat) :
    Finds free n (search taken.length n) ∧ search taken.length n ≤ n + taken.length := by
  obtain ⟨k, hle, hreach, huntaken⟩ := exists_untaken hname taken n
  have hk : free k := (hfree k).2 huntaken
  have hfinds := finds_search hzero hsucc ⟨k, hle, hreach, hk⟩
  exact ⟨hfinds, (hfinds.isLeast.2 ⟨hle, hk⟩).trans hreach⟩

end Dunning.Text
