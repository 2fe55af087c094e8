import Mathlib.Tactic.SplitIfs
import Dunning.Json.Printer
import Dunning.Json.Quoted
import Dunning.Proofs.Text.Utf8

/-!
# Proofs/Json/Quoted — a quoted string reads back

Every character is written as one piece, be it itself, a letter after a backslash or a unit, and the
piece is joined to that character again (`onePiece_escapeChar`).  So a string in quotes is read as
the string (`Quoted.read_escaped`), whatever follows the closing quote.
-/

namespace Dunning.Json

open Dunning.Text

variable {c e : Char} {n : Nat} {rest : List Glyph}

/-- A piece is joined to a character, whatever comes after it. -/
def Piece.Means (p : Piece) (c : Char) : Prop :=
  ∀ after ps, join after (p :: ps) = (join after ps).map (some c :: ·)

theorem Piece.char_means (c : Char) : (Piece.char c).Means c := fun _ _ => by rw [join]

/-- A unit below those that come in pairs is a character by itself. -/
theorem Piece.unit_means (h : n < 0x20) :
    (Piece.unit (some n)).Means (Char.ofNat n) := fun _ _ => by
  have hleading : isLeading n = false := by simp [isLeading]; omega
  have htrailing : isTrailing n = false := by simp [isTrailing]; omega
  rw [join.eq_def]
  simp [hleading, htrailing]

/-! ## One character -/

/-- A text that is read as one piece, which means the character. -/
def OnePiece (c : Char) (cs : List Char) : Prop :=
  ∃ p : Piece, p.Means c ∧ ∀ rest, pieces (cs.map some ++ rest) = p.before (pieces rest)

namespace OnePiece

/-- A backslash and a letter. -/
theorem letter (h : escaped? e = some c) : OnePiece c ['\\', e] := by
  have he : e ≠ 'u' := by
    rintro rfl
    have hnone : escaped? 'u' = none := by decide
    rw [hnone] at h
    cases h
  refine ⟨.char c, Piece.char_means c, fun rest => ?_⟩
  rw [pieces.eq_def]
  simp [he, h]

theorem plain (hquote : c ≠ '"') (hescape : c ≠ '\\') (hcontrol : ¬ c.toNat < 0x20) :
    OnePiece c [c] := by
  refine ⟨.char c, Piece.char_means c, fun rest => ?_⟩
  rw [pieces.eq_def]
  simp [hquote, hescape, hcontrol]

theorem unit?_hexByte (h : n < 0x20) :
    ∃ x y, hexByte n = [x, y] ∧ unit? (some '0') (some '0') (some x) (some y) = some n := by
  have hbyte : ∀ m : Fin 0x20, ∃ x y, hexByte m.val = [x, y] ∧
      unit? (some '0') (some '0') (some x) (some y) = some m.val :=
    fun m => ⟨_, _, rfl, by revert m; decide⟩
  exact hbyte ⟨n, h⟩

/-- A control character as a unit. -/
theorem control (h : n < 0x20) :
    OnePiece (Char.ofNat n) ('\\' :: 'u' :: '0' :: '0' :: hexByte n) := by
  obtain ⟨x, y, hdigits, hunit⟩ := unit?_hexByte h
  refine ⟨.unit (some n), Piece.unit_means h, fun rest => ?_⟩
  rw [hdigits, pieces.eq_def]
  simp [hunit]

end OnePiece

/-- **A character is written as one piece.** -/
theorem onePiece_escapeChar (c : Char) : OnePiece c (escapeChar c) := by
  have hchar : ∀ {n : Nat}, c.toNat = n → c = Char.ofNat n := by
    rintro n rfl
    exact c.ofNat_toNat.symm
  unfold escapeChar
  dsimp only
  split_ifs with hquote hescape h8 h9 h10 h12 h13 hcontrol
  · rw [hchar hquote]
    exact .letter (by decide)
  · rw [hchar hescape]
    exact .letter (by decide)
  · exact hchar h8 ▸ .letter (by decide)
  · exact hchar h9 ▸ .letter (by decide)
  · exact hchar h10 ▸ .letter (by decide)
  · exact hchar h12 ▸ .letter (by decide)
  · exact hchar h13 ▸ .letter (by decide)
  · simpa using OnePiece.control hcontrol
  · exact .plain (fun h => hquote (h ▸ rfl)) (fun h => hescape (h ▸ rfl)) hcontrol

/-! ## A string -/

/-- The pieces of a quoted text, up to its closing quote, are joined to the text. -/
theorem pieces_escaped (cs : List Char) (rest : List Glyph) :
    ∃ ps, pieces ((cs.flatMap escapeChar).map some ++ some '"' :: rest) = (ps, .ok rest) ∧
      join (.ok rest) ps = .ok (cs.map some) := by
  induction cs with
  | nil =>
    refine ⟨[], ?_, rfl⟩
    rw [pieces.eq_def]
    simp
  | cons c cs ih =>
    obtain ⟨ps, hpieces, hjoin⟩ := ih
    obtain ⟨p, hmeans, hp⟩ := onePiece_escapeChar c
    refine ⟨p :: ps, ?_, ?_⟩
    · rw [List.flatMap_cons, List.map_append, List.append_assoc, hp, hpieces]
      rfl
    · rw [hmeans, hjoin]
      rfl

/-- **A string in quotes is read as the string.** -/
theorem Quoted.read_escaped (s : String) (rest : List Glyph) :
    Quoted.read ((s.toList.flatMap escapeChar).map some ++ some '"' :: rest) =
      ⟨.ok s, .ok rest⟩ := by
  obtain ⟨ps, hpieces, hjoin⟩ := pieces_escaped s.toList rest
  have hshown : Utf8.textOf? (s.toList.map some) = some s := Utf8.textOf?_glyphsOf s
  simp [Quoted.read, hpieces, hjoin, Except.bind, hshown]

end Dunning.Json
