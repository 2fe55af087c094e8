import Dunning.Proofs.Strategy.Tally

/-!
# Proofs/Strategy/Reapply — applying strategies one after the other

A strategy looks at input fields only and writes derived fields only, so whatever was applied before
it leaves no trace:

    accounts ──t₁──▸ ──t₂──▸ ⋯ ──s──▸ b        b = accounts ──s──▸

One strategy hides the one before it (`Strategy.reapply_reapply`), and by induction all that came
before it (`Strategy.reapply_applyInTurn`).  Applied to its own result it finds nothing to change
(`Strategy.tally_reapply`).
-/

namespace Dunning

theorem differing_self {α : Type} [DecidableEq α] (f : Account → α) (accounts : List Account) :
    differing f accounts accounts = 0 := by
  rw [differing, List.countP_eq_zero]
  intro i _
  simp

namespace Strategy

/-! ## One account -/

/-- A strategy sets all four derived fields, so an account that lacks one of them is changed. -/
theorem derived_refresh_ne (s : Strategy) {a : Account}
    (h : a.priority = none ∨ a.nextAction = none ∨ a.delinquency = none ∨ a.scale = none) :
    a.derived ≠ (s.refresh a).derived := by
  intro heq
  have hcarries : a.Carries (s.evaluate a) := Account.carries_iff.2 heq
  rcases h with h | h | h | h
  · exact Option.some_ne_none _ (hcarries.priority.symm.trans h)
  · exact Option.some_ne_none _ (hcarries.nextAction.symm.trans h)
  · exact Option.some_ne_none _ (hcarries.delinquency.symm.trans h)
  · exact Option.some_ne_none _ (hcarries.scale.symm.trans h)

/-! ## Lists of accounts -/

/-- Every account keeps its place and its input fields, and carries what the strategy recommends. -/
theorem forall₂_reapply (s : Strategy) (accounts : List Account) :
    List.Forall₂ (fun a b => b.inputs = a.inputs ∧ b.Carries (s.evaluate a)) accounts
      (s.reapply accounts) := by
  rw [reapply, List.forall₂_map_right_iff, List.forall₂_same]
  exact fun a _ => ⟨rfl, a.carries_withEvaluation _⟩

/-- **The strategy applied last decides**, on every account of a list. -/
@[simp] theorem reapply_reapply (s t : Strategy) (accounts : List Account) :
    s.reapply (t.reapply accounts) = s.reapply accounts := by
  rw [reapply, reapply, List.map_map]
  exact List.map_congr_left fun a _ => refresh_refresh s t a

/-- Applies strategies one after the other. -/
def applyInTurn (ts : List Strategy) (accounts : List Account) : List Account :=
  ts.foldl (fun accounts t => t.reapply accounts) accounts

/-- **Nothing that was applied before leaves a trace.** -/
theorem reapply_applyInTurn (s : Strategy) (ts : List Strategy) (accounts : List Account) :
    s.reapply (applyInTurn ts accounts) = s.reapply accounts := by
  induction ts generalizing accounts with
  | nil => rfl
  | cons t ts ih =>
    calc s.reapply (applyInTurn (t :: ts) accounts)
        = s.reapply (applyInTurn ts (t.reapply accounts)) := rfl
      _ = s.reapply (t.reapply accounts) := ih _
      _ = s.reapply accounts := reapply_reapply s t accounts

/-- What a strategy makes of accounts it leaves as they are. -/
theorem tally_reapply (s : Strategy) (accounts : List Account) :
    s.tally (s.reapply accounts) = ⟨accounts.length, 0⟩ := by
  have hchanged : (s.tally (s.reapply accounts)).changed = 0 := by
    rw [tally_changed s rfl, reapply_reapply, differing_self]
  have hlength : (s.reapply accounts).length = accounts.length := List.length_map _
  rw [← hchanged, ← hlength]
  rfl

/-- **Applying a strategy replaces derived fields, counts what that changes, and is done at once.**
Accounts keep their number, their order and their input fields, and carry what the strategy
recommends for them.  The tally counts all of them, and as changed the positions at which one of the
four derived fields differs; an account that lacks one is always among these.  A second time nothing
changes, and strategies applied before make no difference. -/
theorem reapply_settles (s : Strategy) (accounts : List Account) :
    (s.reapply accounts).length = accounts.length ∧
      List.Forall₂ (fun a b => b.inputs = a.inputs ∧ b.Carries (s.evaluate a)) accounts
        (s.reapply accounts) ∧
      s.tally accounts =
        ⟨accounts.length, differing Account.derived accounts (s.reapply accounts)⟩ ∧
      (∀ (i : Nat) (a : Account), accounts[i]? = some a →
        (a.priority = none ∨ a.nextAction = none ∨ a.delinquency = none ∨ a.scale = none) →
          (s.reapply accounts)[i]?.map Account.derived ≠ some a.derived) ∧
      s.reapply (s.reapply accounts) = s.reapply accounts ∧
      s.tally (s.reapply accounts) = ⟨accounts.length, 0⟩ ∧
      ∀ ts : List Strategy, s.reapply (applyInTurn ts accounts) = s.reapply accounts := by
  refine ⟨List.length_map _, s.forall₂_reapply accounts, ?_, fun i a ha hlacks => ?_,
    s.reapply_reapply s accounts, s.tally_reapply accounts, fun ts => s.reapply_applyInTurn ts _⟩
  · rw [← tally_changed s rfl]
    rfl
  · rw [reapply, List.getElem?_map, ha]
    exact fun heq => s.derived_refresh_ne hlacks (Option.some.inj heq).symm

/-- An account whose derived fields are those that the rules recommend, except that one is
missing. -/
def halfEvaluated : Account :=
  { standard.refresh lateCard with scale := none }

/-- The account that lacks a field is changed, the other one is not, and after the graph the rules
give what they give alone. -/
theorem reapply_settles_half :
    (standard.reapply [standard.refresh lateCard, halfEvaluated])[1]?.map Account.derived ≠
        some halfEvaluated.derived ∧
      standard.tally [standard.refresh lateCard, halfEvaluated] = ⟨2, 1⟩ ∧
      standard.reapply (applyInTurn [graph sorting] [lateCard, halfEvaluated]) =
        standard.reapply [lateCard, halfEvaluated] := by
  obtain ⟨-, -, -, hlacks, -, -, -⟩ :=
    reapply_settles standard [standard.refresh lateCard, halfEvaluated]
  obtain ⟨-, -, -, -, -, -, hbefore⟩ := reapply_settles standard [lateCard, halfEvaluated]
  exact ⟨hlacks 1 halfEvaluated rfl (.inr (.inr (.inr rfl))), by decide +kernel, hbefore _⟩

end Strategy

end Dunning
