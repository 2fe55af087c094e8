import Dunning.Proofs.Text.Utf8
import Dunning.Text.Percent

/-!
# Proofs/Text/Percent — a text as a segment of a path

    text        a     /      é
    bytes       61    2F     C3  A9
    segment     a     %2F    %C3 %A9      or %61 %2f %c3 %a9, and so on

A text has several segments that encode it (`Encodes`), for who writes one chooses which characters
stand for themselves.  Each of them is read as the text (`percentDecode?_of_encodes`), and none has
a character at which a segment ends (`Encodes.stays_inside`).  The usual one uses no more digits
than it must (`percentEncode`).
-/

namespace Dunning.Text

/-- The characters that can stand for themselves in a segment. -/
def isSegmentChar (c : Char) : Bool :=
  c.isAlphanum || "-._~!$&'()*+,;=:@".toList.contains c

/-- A segment encodes bytes: a character stands for itself, or `%` and two digits for a byte. -/
inductive EncodesBytes : List Char → List UInt8 → Prop
  | nil : EncodesBytes [] []
  | plain {c : Char} {cs : List Char} {bytes : List UInt8} (hc : isSegmentChar c = true)
      (hrest : EncodesBytes cs bytes) : EncodesBytes (c :: cs) (String.utf8EncodeChar c ++ bytes)
  | byte {a b : Char} {value : UInt8} {cs : List Char} {bytes : List UInt8}
      (hvalue : percentByte? a b = some value) (hrest : EncodesBytes cs bytes) :
      EncodesBytes ('%' :: a :: b :: cs) (value :: bytes)

/-- A segment of a path encodes a text. -/
def Encodes (segment s : String) : Prop :=
  EncodesBytes segment.toList s.toUTF8.toList

/-- A digit in base sixteen. -/
def upperHex (n : Nat) : Char :=
  Char.ofNat (if n < 10 then 48 + n else 55 + n)

/-- A byte in a segment: as a character that can stand for itself, or else in digits. -/
def encodeByte (value : UInt8) : List Char :=
  if isSegmentChar (Char.ofNat value.toNat) then [Char.ofNat value.toNat]
  else ['%', upperHex (value.toNat / 16), upperHex (value.toNat % 16)]

/-- The usual segment for a text. -/
def percentEncode (s : String) : String :=
  String.ofList (s.toUTF8.toList.flatMap encodeByte)

variable {a b c : Char} {cs : List Char} {bytes : List UInt8} {segment s t : String}

/-! ## Characters -/

theorem isSegmentChar_of_outside (h : c = '%' ∨ c = '/' ∨ c = '?' ∨ c = '#') :
    isSegmentChar c = false := by
  rcases h with rfl | rfl | rfl | rfl <;> decide

theorem hexDigit?_of_outside (h : c = '/' ∨ c = '?' ∨ c = '#') : Decimal.hexDigit? c = none := by
  rcases h with rfl | rfl | rfl <;> decide

/-- No character at which a segment ends is part of one that encodes something. -/
theorem EncodesBytes.stays_inside (h : EncodesBytes cs bytes) :
    ∀ c ∈ cs, ¬ (c = '/' ∨ c = '?' ∨ c = '#') := by
  induction h with
  | nil => exact fun _ hc => absurd hc List.not_mem_nil
  | @plain d _ _ hd _ ih =>
    refine List.forall_mem_cons.2 ⟨fun hout => ?_, ih⟩
    rw [isSegmentChar_of_outside (.inr hout)] at hd
    cases hd
  | @byte a b _ _ _ hvalue _ ih =>
    obtain ⟨high, ha, hlow⟩ := Option.bind_eq_some_iff.1 hvalue
    obtain ⟨low, hb, -⟩ := Option.bind_eq_some_iff.1 hlow
    refine List.forall_mem_cons.2 ⟨by decide, List.forall_mem_cons.2 ⟨fun hout => ?_,
      List.forall_mem_cons.2 ⟨fun hout => ?_, ih⟩⟩⟩
    · rw [hexDigit?_of_outside hout] at ha
      cases ha
    · rw [hexDigit?_of_outside hout] at hb
      cases hb

/-! ## Reading a segment -/

theorem percentBytes_cons (hc : c ≠ '%') (cs : List Char) :
    percentBytes (c :: cs) = String.utf8EncodeChar c ++ percentBytes cs := by
  rw [percentBytes]
  rintro a b rest rfl
  exact absurd rfl hc

theorem percentBytes_of_encodes (h : EncodesBytes cs bytes) : percentBytes cs = bytes := by
  induction h with
  | nil => rfl
  | @plain c _ _ hc _ ih =>
    have hne : c ≠ '%' := by
      rintro rfl
      cases hc
    rw [percentBytes_cons hne, ih]
  | byte hvalue _ ih => rw [percentBytes, hvalue, ih]

/-- **A segment that encodes a text is read as the text.** -/
theorem percentDecode?_of_encodes (h : Encodes segment s) : percentDecode? segment = some s := by
  rw [percentDecode?, percentBytes_of_encodes h, Utf8.decode?_toUTF8]

theorem Encodes.eq (hs : Encodes segment s) (ht : Encodes segment t) : s = t :=
  Option.some.inj ((percentDecode?_of_encodes hs).symm.trans (percentDecode?_of_encodes ht))

/-- Only the empty text is encoded by nothing. -/
theorem Encodes.ne_empty (h : Encodes segment s) (hs : s ≠ "") : segment ≠ "" := by
  have hempty : Encodes "" "" := by
    rw [Encodes, toUTF8_eq_flatMap]
    exact .nil
  rintro rfl
  exact hs (h.eq hempty)

/-! ## Writing a segment -/

theorem hexDigit?_upperHex {n : Nat} (h : n < 16) : Decimal.hexDigit? (upperHex n) = some n := by
  have hdigit : ∀ m : Fin 16, Decimal.hexDigit? (upperHex m.val) = some m.val := by decide
  exact hdigit ⟨n, h⟩

/-- A character that can stand for itself is one byte. -/
theorem utf8EncodeChar_of_isSegmentChar {value : UInt8}
    (h : isSegmentChar (Char.ofNat value.toNat) = true) :
    String.utf8EncodeChar (Char.ofNat value.toNat) = [value] := by
  have hbyte : ∀ n : Fin 256, isSegmentChar (Char.ofNat n.val) = true →
      String.utf8EncodeChar (Char.ofNat n.val) = [UInt8.ofNat n.val] := by decide +kernel
  rw [hbyte ⟨value.toNat, value.toNat_lt⟩ h, UInt8.ofNat_toNat]

/-- What is written for a byte encodes it. -/
theorem EncodesBytes.encodeByte (value : UInt8) (h : EncodesBytes cs bytes) :
    EncodesBytes (encodeByte value ++ cs) (value :: bytes) := by
  rw [Text.encodeByte]
  split_ifs with hc
  · have hplain := EncodesBytes.plain hc h
    rwa [utf8EncodeChar_of_isSegmentChar hc] at hplain
  · refine .byte ?_ h
    have hlt := value.toNat_lt
    have hparts : value.toNat / 16 * 16 + value.toNat % 16 = value.toNat := by omega
    rw [percentByte?, hexDigit?_upperHex (by omega), hexDigit?_upperHex (by omega)]
    simp only [Option.bind_eq_bind, Option.bind_some, hparts, UInt8.ofNat_toNat]

/-- **Every text has a segment.** -/
theorem encodes_percentEncode (s : String) : Encodes (percentEncode s) s := by
  rw [Encodes, percentEncode, String.toList_ofList]
  induction s.toUTF8.toList with
  | nil => exact .nil
  | cons value bytes ih =>
    rw [List.flatMap_cons]
    exact ih.encodeByte value

end Dunning.Text
