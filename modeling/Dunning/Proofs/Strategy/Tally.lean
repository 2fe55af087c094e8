import Mathlib.Data.List.Forall2
import Dunning.Proofs.Account.Merge
import Dunning.Proofs.Strategy.Sight

/-!
# Proofs/Strategy/Tally — which accounts move when a strategy is applied

A strategy is applied to accounts, to some that it has been applied to before, or to what a merge
makes of these:

    accounts    a₀   a₁           a₂
    merged      a₀   a₁ + u + w   a₂ + v
    applied     a₀   b₁           b₂

The tally counts the positions at which the derived fields differ from those before
(`Strategy.tally_changed`).  Accounts that carry what the strategy recommends do not move
(`Strategy.refresh_eq_self_iff`), so after a merge only those move that it has named.
-/

namespace Dunning

namespace Account

variable {a : Account} {e : Evaluation}

/-- The derived fields. -/
def derived (a : Account) :
    Option Int32 × Option String × Option Delinquency × Option PriorityScale :=
  (a.priority, a.nextAction, a.delinquency, a.scale)

/-- The derived fields that the strategy decides: all but the delinquency. -/
def advice (a : Account) : Option Int32 × Option String × Option PriorityScale :=
  (a.priority, a.nextAction, a.scale)

theorem carries_iff : a.Carries e ↔ a.derived = (a.withEvaluation e).derived := by
  constructor
  · rintro ⟨hp, hn, hd, hs⟩
    rw [derived, hp, hn, hd, hs]
    rfl
  · intro h
    simp only [derived, withEvaluation, Prod.mk.injEq] at h
    exact ⟨h.1, h.2.1, h.2.2.1, h.2.2.2⟩

/-- What an account says it was recommended is what it carries. -/
theorem evaluation?_eq_some_iff : a.evaluation? = some e ↔ a.Carries e := by
  constructor
  · intro h
    simp only [evaluation?, Option.bind_eq_bind, Option.bind_eq_some_iff, Option.some.injEq] at h
    obtain ⟨priority, hp, nextAction, hn, delinquency, hd, scale, hs, rfl⟩ := h
    exact ⟨hp, hn, hd, hs⟩
  · rintro ⟨hp, hn, hd, hs⟩
    simp [evaluation?, hp, hn, hd, hs]

theorem Carries.withEvaluation_eq (h : a.Carries e) : a.withEvaluation e = a := by
  obtain ⟨hp, hn, hd, hs⟩ := h
  cases a
  simp_all [withEvaluation]

end Account

/-- The number of positions at which two lists of accounts differ, as far as `f` tells. -/
def differing {α : Type} [DecidableEq α] (f : Account → α) (before after : List Account) : Nat :=
  (List.range before.length).countP fun i => before[i]?.map f ≠ after[i]?.map f

theorem differing_map {α : Type} [DecidableEq α] (f : Account → α) (g : Account → Account)
    (accounts : List Account) :
    differing f accounts (accounts.map g) = accounts.countP fun a => f a ≠ f (g a) := by
  rw [differing, countP_eq_countP_range _ accounts]
  refine List.countP_congr fun i hi => ?_
  rw [List.getElem?_map, List.getElem?_eq_getElem (List.mem_range.1 hi)]
  simp

namespace Strategy

variable {s t : Strategy} {a : Account} {before accounts : List Account} {updates : List Update}
  {i : Nat}

/-! ## Applying -/

theorem refresh_eq_self_iff : s.refresh a = a ↔ a.Carries (s.evaluate a) := by
  refine ⟨fun h => ?_, Account.Carries.withEvaluation_eq⟩
  rw [Account.carries_iff]
  exact congrArg Account.derived h.symm

theorem changes_iff : s.changes a = true ↔ a.derived ≠ (s.refresh a).derived := by
  rw [changes, bne_iff_ne, Ne, Account.evaluation?_eq_some_iff, Account.carries_iff]
  rfl

/-- **A tally counts the positions at which derived fields differ**, from those of any accounts
before that had the same. -/
theorem tally_changed (s : Strategy)
    (h : before.map Account.derived = accounts.map Account.derived) :
    (s.tally accounts).changed = differing Account.derived before (s.reapply accounts) := by
  have hlength : before.length = accounts.length := by simpa using congrArg List.length h
  have hself : (s.tally accounts).changed =
      differing Account.derived accounts (s.reapply accounts) := by
    rw [tally, reapply, differing_map]
    exact List.countP_congr fun a _ => by simp [changes_iff]
  rw [hself, differing, differing, hlength]
  refine List.countP_congr fun i _ => ?_
  rw [← List.getElem?_map, ← h, List.getElem?_map]

/-- The accounts that carry what a strategy recommends do not move. -/
theorem reapply_eq_self (h : ∀ a ∈ accounts, a.Carries (s.evaluate a)) :
    s.reapply accounts = accounts := by
  have hself : ∀ a ∈ accounts, s.refresh a = id a := fun a ha => refresh_eq_self_iff.2 (h a ha)
  rw [reapply, List.map_congr_left hself, List.map_id]

/-! ## Changing the strategy -/

/-- Strategies agree in the delinquency. -/
theorem refresh_delinquency (h : a.Carries (t.evaluate a)) :
    (s.refresh a).delinquency = a.delinquency := by
  rw [h.delinquency, evaluate_delinquency, ← evaluate_delinquency a s]
  rfl

/-- **In an account that carries what another strategy recommends, only the advice moves.** -/
theorem refresh_of_carries (h : a.Carries (t.evaluate a)) :
    s.refresh a = { a with
      priority := (s.refresh a).priority
      nextAction := (s.refresh a).nextAction
      scale := (s.refresh a).scale } := by
  rw [← refresh_delinquency (s := s) h]
  rfl

theorem differing_derived_eq_advice (h : ∀ a ∈ accounts, a.Carries (t.evaluate a)) :
    differing Account.derived accounts (s.reapply accounts) =
      differing Account.advice accounts (s.reapply accounts) := by
  rw [reapply, differing_map, differing_map]
  refine List.countP_congr fun a ha => ?_
  simp [Account.derived, Account.advice, refresh_delinquency (s := s) (h a ha)]

/-- From one queue to another nothing moves but advice, and a tally counts the accounts and how many
of them move. -/
structure Redirects (tally : Tally) (before after : List Account) : Prop where
  kept : List.Forall₂ (fun a b => b = { a with
    priority := b.priority
    nextAction := b.nextAction
    scale := b.scale }) before after
  evaluated : tally.evaluated = before.length
  changed : tally.changed = differing Account.advice before after

/-- **A strategy that takes over from another redirects the queue.** -/
theorem tally_redirects (s : Strategy) (h : ∀ a ∈ accounts, a.Carries (t.evaluate a)) :
    Redirects (s.tally accounts) accounts (s.reapply accounts) where
  kept := by
    rw [reapply, List.forall₂_map_right_iff, List.forall₂_same]
    exact fun a ha => refresh_of_carries (h a ha)
  evaluated := rfl
  changed := (tally_changed s rfl).trans (differing_derived_eq_advice h)

/-! ## Merging first -/

theorem map_derived_merge (accounts : List Account) (updates : List Update) :
    accounts.map Account.derived =
      (Update.merge accounts updates).accounts.map Account.derived := by
  have hderived : ∀ (us : List Update) (a : Account),
      (Update.applyEach us a).derived = a.derived := by
    intro us
    induction us with
    | nil => exact fun _ => rfl
    | cons u us ih => exact fun a => (ih (u.apply a)).trans rfl
  rw [Update.merge_accounts]
  refine List.ext_getElem? fun i => ?_
  rw [List.getElem?_map, List.getElem?_map, List.getElem?_mapIdx, Option.map_map]
  exact congrFun (congrArg _ (funext fun a => (hderived _ a).symm)) _

/-- **An account without updates does not move.** -/
theorem getElem?_reapply_merge (h : ∀ a ∈ accounts, a.Carries (s.evaluate a))
    (hnone : Update.allFor updates accounts i = []) :
    (s.reapply (Update.merge accounts updates).accounts)[i]? = accounts[i]? := by
  rw [reapply, Update.merge_accounts, List.getElem?_map, List.getElem?_mapIdx, hnone]
  cases ha : accounts[i]? with
  | none => rfl
  | some a => exact congrArg some (refresh_eq_self_iff.2 (h a (List.mem_of_getElem? ha)))

/-- **At most the accounts move that a merge has named.** -/
theorem differing_reapply_merge_le (h : ∀ a ∈ accounts, a.Carries (s.evaluate a))
    (updates : List Update) :
    differing Account.derived accounts (s.reapply (Update.merge accounts updates).accounts) ≤
      (Update.merge accounts updates).updated := by
  rw [differing, Update.merge_updated]
  refine List.countP_mono_left fun i _ hmoved => ?_
  by_contra hnone
  rw [getElem?_reapply_merge h (by simpa using hnone)] at hmoved
  simp at hmoved

end Strategy

end Dunning
