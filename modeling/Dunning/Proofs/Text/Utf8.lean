import Mathlib.Tactic.SplitIfs
import Dunning.Text.Utf8

/-!
# Proofs/Text/Utf8 — a text shows in its bytes

The bytes of a character are read as that character, whatever follows them (`first?_encode`): the
first byte tells the width, and no form that is written is overlong or a surrogate.  So the bytes of
a text show its characters (`glyphs_toUTF8`), and are read as the text (`decode?_toUTF8`).
-/

namespace Dunning.Text

/-! ## Byte arrays as lists -/

theorem toList_loop_eq (bytes : ByteArray) (i : Nat) (front : List UInt8) :
    ByteArray.toList.loop bytes i front = front.reverse ++ bytes.data.toList.drop i := by
  fun_induction ByteArray.toList.loop bytes i front with
  | case1 i front h ih =>
    have hi : i < bytes.data.toList.length := by simpa using h
    rw [ih, List.drop_eq_getElem_cons hi]
    simp [ByteArray.get!, h]
  | case2 i front h =>
    rw [List.drop_eq_nil_of_le (by simpa using Nat.le_of_not_lt h), List.append_nil]

/-- The bytes of a text are those of its characters. -/
theorem toUTF8_eq_flatMap (s : String) :
    s.toUTF8.toList = s.toList.flatMap String.utf8EncodeChar := by
  have h : s.toUTF8 = (s.toList.flatMap String.utf8EncodeChar).toByteArray :=
    String.utf8Encode_toList.symm
  rw [h, ByteArray.toList, toList_loop_eq, List.toList_data_toByteArray, List.reverse_nil,
    List.nil_append, List.drop_zero]

namespace Utf8

/-! ## One character -/

section Bytes

variable {a b c d : UInt8} {w x y z : Nat} (rest : List UInt8)

theorem toNat_byte {n : Nat} (h : n < 256) : (UInt8.ofNat n).toNat = n := by
  rw [UInt8.toNat_ofNat']
  exact Nat.mod_eq_of_lt h

/-- The payload of a continuation byte. -/
theorem tail?_eq (hb : b.toNat = y + 128) (hy : y < 64) : tail? b = some y := by
  have hin : 0x80 ≤ b ∧ b ≤ 0xBF := by
    simp only [UInt8.le_iff_toNat_le, UInt8.toNat_ofNat]
    omega
  simp [tail?, hin.1, hin.2, hb]

theorem first?_one (ha : a.toNat < 128) : first? (a :: rest) = some (Char.ofNat a.toNat, 1) := by
  have hlow : a < 0x80 := by
    simp only [UInt8.lt_iff_toNat_lt, UInt8.toNat_ofNat]
    exact ha
  simp [first?, hlow]

/-- A byte that opens a longer sequence is no character by itself. -/
theorem not_lt_of_lead (h : 192 ≤ a.toNat) : ¬ a < 0x80 := by
  simp only [UInt8.lt_iff_toNat_lt, UInt8.toNat_ofNat]
  omega

theorem first?_two (ha : a.toNat = x + 192) (hx : 2 ≤ x ∧ x < 32) (hb : b.toNat = y + 128)
    (hy : y < 64) : first? (a :: b :: rest) = some (Char.ofNat (x * 64 + y), 2) := by
  have hin : 0xC2 ≤ a ∧ a ≤ 0xDF := by
    simp only [UInt8.le_iff_toNat_le, UInt8.toNat_ofNat]
    omega
  have htwo : two? a b = some (Char.ofNat (x * 64 + y)) := by
    simp [two?, tail?_eq hb hy, hin.1, hin.2, ha]
  simp [first?, not_lt_of_lead (a := a) (by omega), htwo]

/-- A byte above those that open a sequence of two opens none. -/
theorem two?_eq_none (h : 224 ≤ a.toNat) (b : UInt8) : two? a b = none := by
  have hout : ¬ a ≤ 0xDF := by
    simp only [UInt8.le_iff_toNat_le, UInt8.toNat_ofNat]
    omega
  cases hb : tail? b <;> simp [two?, hb, hout]

theorem first?_three (ha : a.toNat = x + 224) (hx : x < 16) (hb : b.toNat = y + 128) (hy : y < 64)
    (hc : c.toNat = z + 128) (hz : z < 64) (hwide : 0x800 ≤ x * 4096 + y * 64 + z)
    (hpair : x * 4096 + y * 64 + z < 0xD800 ∨ 0xDFFF < x * 4096 + y * 64 + z) :
    first? (a :: b :: c :: rest) = some (Char.ofNat (x * 4096 + y * 64 + z), 3) := by
  have hin : 0xE0 ≤ a ∧ a ≤ 0xEF := by
    simp only [UInt8.le_iff_toNat_le, UInt8.toNat_ofNat]
    omega
  have hlead : a.toNat - 0xE0 = x := by omega
  generalize hn : x * 4096 + y * 64 + z = n at hwide hpair ⊢
  have hthree : three? a b c = some (Char.ofNat n) := by
    simp only [three?, tail?_eq hb hy, tail?_eq hc hz, Option.bind_eq_bind, Option.bind_some,
      hlead, hn]
    exact if_pos (by simp [hin.1, hin.2, hwide, hpair])
  simp [first?, not_lt_of_lead (a := a) (by omega), two?_eq_none (a := a) (by omega), hthree]

/-- A byte above those that open a sequence of three opens none. -/
theorem three?_eq_none (h : 240 ≤ a.toNat) (b c : UInt8) : three? a b c = none := by
  have hout : ¬ a ≤ 0xEF := by
    simp only [UInt8.le_iff_toNat_le, UInt8.toNat_ofNat]
    omega
  cases hb : tail? b <;> cases hc : tail? c <;> simp [three?, hb, hc, hout]

theorem first?_four (ha : a.toNat = w + 240) (hw : w ≤ 4) (hb : b.toNat = x + 128) (hx : x < 64)
    (hc : c.toNat = y + 128) (hy : y < 64) (hd : d.toNat = z + 128) (hz : z < 64)
    (hwide : 0x10000 ≤ w * 262144 + x * 4096 + y * 64 + z)
    (hlast : w * 262144 + x * 4096 + y * 64 + z ≤ 0x10FFFF) :
    first? (a :: b :: c :: d :: rest) =
      some (Char.ofNat (w * 262144 + x * 4096 + y * 64 + z), 4) := by
  have hin : 0xF0 ≤ a ∧ a ≤ 0xF4 := by
    simp only [UInt8.le_iff_toNat_le, UInt8.toNat_ofNat]
    omega
  have hlead : a.toNat - 0xF0 = w := by omega
  generalize hn : w * 262144 + x * 4096 + y * 64 + z = n at hwide hlast ⊢
  have hfour : four? a b c d = some (Char.ofNat n) := by
    simp only [four?, tail?_eq hb hx, tail?_eq hc hy, tail?_eq hd hz, Option.bind_eq_bind,
      Option.bind_some, hlead, hn]
    exact if_pos (by simp [hin.1, hin.2, hwide, hlast])
  simp [first?, not_lt_of_lead (a := a) (by omega), two?_eq_none (a := a) (by omega),
    three?_eq_none (a := a) (by omega), hfour]

end Bytes

/-- **The bytes of a character are read as that character**, whatever follows them. -/
theorem first?_encode (c : Char) (rest : List UInt8) :
    first? (String.utf8EncodeChar c ++ rest) = some (c, (String.utf8EncodeChar c).length) := by
  have hvalid : c.toNat < 0xD800 ∨ 0xDFFF < c.toNat ∧ c.toNat < 0x110000 := c.valid
  have hc : Char.ofNat c.toNat = c := Char.ofNat_toNat c
  have hval : c.val.toNat = c.toNat := rfl
  generalize c.toNat = n at hvalid hc hval
  simp only [String.utf8EncodeChar, hval]
  split_ifs with hone htwo hthree
  · have h := first?_one (a := UInt8.ofNat n) rest
    rw [toNat_byte (by omega), hc] at h
    exact h (by omega)
  · have h := first?_two rest (toNat_byte (n := n / 64 % 32 + 192) (by omega)) (by omega)
      (toNat_byte (n := n % 64 + 128) (by omega)) (by omega)
    have hn : n / 64 % 32 * 64 + n % 64 = n := by omega
    rw [hn, hc] at h
    exact h
  · have hn : n / 4096 % 16 * 4096 + n / 64 % 64 * 64 + n % 64 = n := by omega
    have h := first?_three rest (toNat_byte (n := n / 4096 % 16 + 224) (by omega)) (by omega)
      (toNat_byte (n := n / 64 % 64 + 128) (by omega)) (by omega)
      (toNat_byte (n := n % 64 + 128) (by omega)) (by omega) (by omega) (by omega)
    rw [hn, hc] at h
    exact h
  · have hn : n / 262144 % 8 * 262144 + n / 4096 % 64 * 4096 + n / 64 % 64 * 64 + n % 64 = n := by
      omega
    have h := first?_four rest (toNat_byte (n := n / 262144 % 8 + 240) (by omega)) (by omega)
      (toNat_byte (n := n / 4096 % 64 + 128) (by omega)) (by omega)
      (toNat_byte (n := n / 64 % 64 + 128) (by omega)) (by omega)
      (toNat_byte (n := n % 64 + 128) (by omega)) (by omega) (by omega) (by omega)
    rw [hn, hc] at h
    exact h

/-! ## A text -/

theorem glyphsAfter_append (bytes rest : List UInt8) :
    glyphsAfter bytes.length (bytes ++ rest) = glyphsAfter 0 rest := by
  induction bytes with
  | nil => rfl
  | cons b bytes ih => rw [List.length_cons, List.cons_append, glyphsAfter, ih]

/-- A character shows at the front of its bytes. -/
theorem glyphs_encode (c : Char) (rest : List UInt8) :
    glyphs (String.utf8EncodeChar c ++ rest) = some c :: glyphs rest := by
  have hfirst := first?_encode c rest
  obtain ⟨b, bytes, hbytes⟩ := List.exists_cons_of_ne_nil (l := String.utf8EncodeChar c)
    (List.ne_nil_of_length_pos (by simp [c.utf8Size_pos]))
  rw [hbytes, List.cons_append] at hfirst ⊢
  rw [glyphs, glyphsAfter, hfirst]
  exact congrArg _ (glyphsAfter_append bytes rest)

/-- **The bytes of a text show its characters.** -/
theorem glyphs_toUTF8 (s : String) : glyphs s.toUTF8.toList = glyphsOf s := by
  rw [toUTF8_eq_flatMap, glyphsOf]
  induction s.toList with
  | nil => rfl
  | cons c cs ih => rw [List.flatMap_cons, glyphs_encode, ih, List.map_cons]

/-- What a text shows is the text. -/
theorem textOf?_glyphsOf (s : String) : textOf? (glyphsOf s) = some s := by
  have hmap : (s.toList.map some).mapM id = some s.toList := by
    induction s.toList with
    | nil => rfl
    | cons c cs ih => simp [ih]
  rw [textOf?, glyphsOf, hmap, Option.map_some, String.ofList_toList]

/-- **The bytes of a text are read as the text.** -/
theorem decode?_toUTF8 (s : String) : decode? s.toUTF8.toList = some s := by
  rw [decode?, glyphs_toUTF8, textOf?_glyphsOf]

end Utf8

end Dunning.Text
