import Dunning.Json.Parser
import Dunning.Proofs.Decimal.Nearest
import Dunning.Proofs.Json.Regular

/-!
# Proofs/Json/Parsed — the trees that texts have

Every number that a text writes is an integer of 64 bits or a finite double: a literal beyond the
doubles is no number but an unreadable place.  So the tree of any text is regular (`parse_regular`),
however broken the text is, and its integers have finite doubles (`Fits.isFinite`).
-/

namespace Dunning.Json

open Dunning.Text Dunning.Decimal

/-- **An integer of 64 bits has a finite double.** -/
theorem Fits.isFinite {n : Int} (h : Fits n) : (ofInt n).isFinite = true := by
  have hleast : leastInteger = -9223372036854775808 := rfl
  have hgreatest : greatestInteger = 18446744073709551615 := rfl
  obtain ⟨hlow, hhigh⟩ := h
  exact isFinite_ofInt (by omega)

/-! ## Numbers -/

theorem floatTree_regular (negative : Bool) (d : Scientific) : (floatTree negative d).Regular := by
  rw [floatTree]
  split
  · next hx =>
    refine .float ?_
    split
    · exact isFinite_neg hx
    · exact hx
  · exact .unreadable _

theorem wholeTree_regular (negative : Bool) (digits : List Char) :
    (wholeTree negative digits).Regular := by
  simp only [wholeTree]
  generalize (if negative then -(Decimal.value digits : Int) else Decimal.value digits) = n
  split
  · exact .float (by decide)
  · split
    · next hfits => exact .integer hfits
    · exact floatTree_regular _ _

/-- A result as wanted, or a regular tree where reading stops. -/
def Yields {α : Type} (wanted : α → Prop) : Except Tree α → Prop
  | .ok a => wanted a
  | .error t => t.Regular

theorem Yields.bind {α β : Type} {p : α → Prop} {q : β → Prop} {x : Except Tree α}
    {f : α → Except Tree β} (hx : Yields p x) (hf : ∀ a, p a → Yields q (f a)) :
    Yields q (x >>= f) := by
  cases x with
  | error _ => exact hx
  | ok a => exact hf a hx

theorem someDigits_yields (cs : List Glyph) : Yields (fun _ => True) (someDigits cs) := by
  rw [someDigits]
  split
  · exact Tree.Regular.stuck _ _
  · exact Tree.Regular.stuck _ _
  · exact trivial

theorem wholeDigits_yields (cs : List Glyph) : Yields (fun _ => True) (wholeDigits cs) := by
  refine (someDigits_yields cs).bind fun found _ => ?_
  obtain ⟨digits, rest⟩ := found
  dsimp only
  split
  · exact Tree.Regular.stuck _ _
  · exact trivial

theorem fractionDigits_yields (cs : List Glyph) : Yields (fun _ => True) (fractionDigits cs) := by
  unfold fractionDigits
  split
  · exact (someDigits_yields _).bind fun _ _ => trivial
  · exact trivial

theorem exponentPart_yields (cs : List Glyph) : Yields (fun _ => True) (exponentPart cs) := by
  unfold exponentPart
  split
  · split
    · exact (someDigits_yields _).bind fun _ _ => trivial
    · exact trivial
  · exact trivial

/-- A literal without its sign. -/
theorem magnitude_yields (negative : Bool) (cs : List Glyph) :
    Yields (fun read => read.1.Regular) (magnitude negative cs) := by
  refine (wholeDigits_yields cs).bind fun (whole, rest) _ => ?_
  refine (fractionDigits_yields rest).bind fun (fraction, rest) _ => ?_
  refine (exponentPart_yields rest).bind fun (exponent, rest) _ => ?_
  dsimp only
  split
  · exact wholeTree_regular _ _
  · exact floatTree_regular _ _

theorem number_regular (negative : Bool) (cs : List Glyph) : (number negative cs).1.Regular := by
  have h := magnitude_yields negative cs
  rw [number]
  cases hm : magnitude negative cs with
  | error t => rw [hm] at h; exact h
  | ok read => rw [hm] at h; exact h

/-! ## Values -/

theorem word_regular {meaning : Tree} (h : meaning.Regular) (cs : List Char) (rest : List Glyph) :
    (word meaning cs rest).1.Regular := by
  induction cs generalizing rest with
  | nil => exact h
  | cons c cs ih =>
    unfold word
    split
    · exact .stuck _ _
    · split
      · exact ih _
      · exact .stuck _ _

theorem text_regular (cs : List Glyph) : (text cs).1.Regular := by
  simp only [text]
  split
  · exact .string _
  · exact .unreadable _
  · exact .stuck _ _
  · exact .stuck _ _

theorem scalar_regular (c : Char) (rest : List Glyph) : (scalar c rest).1.Regular := by
  unfold scalar
  repeat' split
  · exact word_regular .null _ _
  · exact word_regular (.bool true) _ _
  · exact word_regular (.bool false) _ _
  · exact text_regular _
  · exact number_regular _ _
  · exact number_regular _ _
  · exact .stuck _ _

theorem bracket_regular (depth : Nat) {t : Tree} (h : t.Regular) : (bracket depth t).Regular := by
  rw [bracket]
  split
  · exact .deep _
  · exact h

section Nested

variable {fuel : Nat}

theorem items_regular_succ (hvalue : ∀ depth cs, (value fuel depth cs).1.Regular)
    (hitems : ∀ depth cs, ∀ item ∈ (items fuel depth cs).1, item.Regular)
    (depth : Nat) (cs : List Glyph) : ∀ item ∈ (items (fuel + 1) depth cs).1, item.Regular := by
  have hfirst := hvalue depth cs
  rw [items]
  split
  · next t h =>
    rw [h] at hfirst
    exact List.forall_mem_singleton.mpr hfirst
  · next t rest h =>
    rw [h] at hfirst
    split
    · exact List.forall_mem_singleton.mpr hfirst
    · exact List.forall_mem_cons.mpr ⟨hfirst, hitems depth _⟩

theorem members_regular_succ (hvalue : ∀ depth cs, (value fuel depth cs).1.Regular)
    (hmembers : ∀ depth cs, ∀ m ∈ (members fuel depth cs).1, m.2.Regular)
    (depth : Nat) (cs : List Glyph) : ∀ m ∈ (members (fuel + 1) depth cs).1, m.2.Regular := by
  unfold members
  split
  · exact fun m hm => absurd hm List.not_mem_nil
  · next g rest =>
    split
    · dsimp only
      split
      · exact fun m hm => absurd hm List.not_mem_nil
      · split
        · exact List.forall_mem_singleton.mpr (.stuck _ _)
        · next rest _ =>
          have hfirst := hvalue depth rest
          split
          · next t h =>
            rw [h] at hfirst
            exact List.forall_mem_singleton.mpr hfirst
          · next t rest h =>
            rw [h] at hfirst
            split
            · exact List.forall_mem_singleton.mpr hfirst
            · exact List.forall_mem_cons.mpr ⟨hfirst, hmembers depth _⟩
    · exact List.forall_mem_singleton.mpr (hvalue depth _)

theorem value_regular_succ (hitems : ∀ depth cs, ∀ item ∈ (items fuel depth cs).1, item.Regular)
    (hmembers : ∀ depth cs, ∀ m ∈ (members fuel depth cs).1, m.2.Regular)
    (depth : Nat) (cs : List Glyph) : (value (fuel + 1) depth cs).1.Regular := by
  rw [value]
  split
  · exact .stuck _ _
  · exact .stuck _ _
  · split
    · refine bracket_regular depth (.array ?_)
      split
      · exact fun item hitem => absurd hitem List.not_mem_nil
      · split
        · exact fun item hitem => absurd hitem List.not_mem_nil
        · exact hitems _ _
    · split
      · refine bracket_regular depth (.object ?_)
        split
        · exact fun m hm => absurd hm List.not_mem_nil
        · split
          · exact fun m hm => absurd hm List.not_mem_nil
          · exact hmembers _ _
      · exact scalar_regular _ _

end Nested

/-- **Whatever a text holds, its tree is regular**, and so are the items and members in it. -/
theorem value_regular (fuel : Nat) :
    (∀ depth cs, (value fuel depth cs).1.Regular) ∧
      (∀ depth cs, ∀ item ∈ (items fuel depth cs).1, item.Regular) ∧
      (∀ depth cs, ∀ m ∈ (members fuel depth cs).1, m.2.Regular) := by
  induction fuel with
  | zero =>
    refine ⟨fun _ _ => ?_, fun _ _ _ h => ?_, fun _ _ _ h => ?_⟩
    · rw [value]; exact .stuck _ _
    · rw [items] at h; exact absurd h List.not_mem_nil
    · rw [members] at h; exact absurd h List.not_mem_nil
  | succ fuel ih =>
    obtain ⟨hvalue, hitems, hmembers⟩ := ih
    exact ⟨value_regular_succ hitems hmembers, items_regular_succ hvalue hitems,
      members_regular_succ hvalue hmembers⟩

/-- **The tree of a text is regular.** -/
theorem parse_regular (cs : List Glyph) : (Document.parse cs).tree.Regular := by
  have h := (value_regular (2 * cs.length + 2)).1 maxDepth cs
  rw [Document.parse]
  split
  · next heq => rw [heq] at h; exact h
  · next heq => rw [heq] at h; exact h

end Dunning.Json
