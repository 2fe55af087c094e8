import Dunning.Condition.Holds
import Dunning.Proofs.Text.Lowering

/-!
# Proofs/Condition/Contains — which pieces of a text are found

Both sides are lower-cased before one is looked for in the other.  So a text is not found by every
piece of it, as it stands: a sigma that ends a word in the piece may end none in the text.

    ΣΤΕΓΑΣΤΙΚΟ    by ΣΤΕΓΑ, not by ΣΤΕΓΑΣ
    ΣΤΕΓΑΣ 2      by ΣΤΕΓΑ and by ΣΤΕΓΑΣ

A piece is found wherever its sigmas stay what they are alone, and the pieces that are found in
every text are exactly the settled ones, of which no sigma is loose (`contains_finds_pieces`).
-/

namespace Dunning

open Dunning.Text

variable {a : Account} {subject : Attribute} {t : String}

theorem holds_contains_iff (ht : Value.of? a subject = some (.text t)) (title s : String) :
    (Condition.mk title subject .contains (.text s)).holds a = true ↔
      lower s.toList <:+: lower t.toList := by
  rw [Condition.holds, ht, ← occursIn_iff]
  rfl

/-- **A text is found by its pieces**, as far as their sigmas are not read otherwise: in a text that
keeps the sigmas of a piece, and in all texts if and only if the piece is settled. -/
theorem contains_finds_pieces (title s : String) :
    (∀ subject a t before after, Value.of? a subject = some (.text t) →
        t.toList = before ++ s.toList ++ after → KeepsSigmas before s.toList after →
        (Condition.mk title subject .contains (.text s)).holds a = true) ∧
      (Settled s.toList ↔ ∀ subject a t, Value.of? a subject = some (.text t) →
        s.toList <:+: t.toList →
        (Condition.mk title subject .contains (.text s)).holds a = true) := by
  have hkept : ∀ subject a t before after, Value.of? a subject = some (.text t) →
      t.toList = before ++ s.toList ++ after → KeepsSigmas before s.toList after →
      (Condition.mk title subject .contains (.text s)).holds a = true := by
    intro subject a t before after ht hplace hkeeps
    rw [holds_contains_iff ht, hplace]
    exact hkeeps.lower_piece
  refine ⟨hkept, ?_, ?_⟩
  · rintro hsettled subject a t ht ⟨before, after, hplace⟩
    exact hkept subject a t before after ht hplace.symm (hsettled.keepsSigmas before after)
  · intro hfound
    rw [settled_iff]
    intro before after
    -- any text may be the category of an account
    let t := String.ofList (before ++ s.toList ++ after)
    let a : Account := { Account.blank with category := some t }
    have ht : Value.of? a .category = some (.text t) := rfl
    have hplace : t.toList = before ++ s.toList ++ after := String.toList_ofList
    rw [← hplace, ← holds_contains_iff ht title s]
    exact hfound .category a t ht ⟨before, after, hplace.symm⟩

/-- A piece that the text happens to suit, and one without a sigma, which every text suits. -/
theorem contains_finds_pieces_mortgage :
    (Condition.mk "" .category .contains (.text "ΣΤΕΓΑΣ")).holds
        { Account.blank with category := some "ΣΤΕΓΑΣ 2" } = true ∧
      (Condition.mk "" .band .contains (.text "ΤΙΚΟ")).holds
        { Account.blank with band := some "ΣΤΕΓΑΣΤΙΚΟ" } = true := by
  have hkeeps : KeepsSigmas [] "ΣΤΕΓΑΣ".toList " 2".toList := by decide +kernel
  have hsettled : Settled "ΤΙΚΟ".toList := settled_of_sigma_notMem (by decide)
  exact ⟨(contains_finds_pieces "" "ΣΤΕΓΑΣ").1 .category _ _ [] " 2".toList rfl (by decide) hkeeps,
    (contains_finds_pieces "" "ΤΙΚΟ").2.1 hsettled .band _ _ rfl ⟨"ΣΤΕΓΑΣ".toList, [], by decide⟩⟩

/-- **A text may not be found by a piece of it.** -/
theorem contains_misses_piece :
    "ΣΤΕΓΑΣ".toList <:+: "ΣΤΕΓΑΣΤΙΚΟ".toList ∧
      (Condition.mk "" .category .contains (.text "ΣΤΕΓΑΣ")).holds
        { Account.blank with category := some "ΣΤΕΓΑΣΤΙΚΟ" } = false :=
  ⟨⟨[], "ΤΙΚΟ".toList, by decide⟩, by decide +kernel⟩

end Dunning
