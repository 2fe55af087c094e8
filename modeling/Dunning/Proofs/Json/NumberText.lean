import Dunning.Json.Parser
import Dunning.Json.Printer
import Dunning.Proofs.Decimal.ReadBack
import Dunning.Proofs.Json.Regular

/-!
# Proofs/Json/NumberText — numbers as texts

A `NumberText` is a number as a text writes it: digits, and perhaps a point with digits and an
exponent.  It reads as what it writes, as long as nothing follows that would be part of it
(`NumberText.magnitude_text`).  An integer of 64 bits is written as such a text, and so is a finite
double, always with a point or an exponent

  `0.00123`   `12300.0`   `12.3`   `1.23e+20`

An integer reads back as what it was (`integer_readBack`).  Of a double this cannot be said: the
text writes its shortest digits (`NumberText.Writes`), but reading rounds more than once.
-/

namespace Dunning.Json

open Dunning.Text Dunning.Decimal Float.Model

/-! ## Texts of numbers -/

/-- At least one digit. -/
structure Digits where
  chars : List Char
  isDigits : ∀ c ∈ chars, isDigit c = true
  ne_nil : chars ≠ []

/-- A number without its sign, as a text writes it. -/
structure NumberText where
  whole : Digits
  /-- No digit follows a zero in front. -/
  single : ∀ rest, whole.chars = '0' :: rest → rest = []
  fraction : Option Digits
  /-- Whether the exponent is negative, and its digits. -/
  exponent : Option (Bool × Digits)

namespace NumberText

/-- The point with its digits. -/
def fractionText : Option Digits → List Char
  | none => []
  | some ds => '.' :: ds.chars

/-- The exponent with its mark and its sign. -/
def exponentText : Option (Bool × Digits) → List Char
  | none => []
  | some (negative, ds) => 'e' :: (if negative then '-' else '+') :: ds.chars

/-- The characters of a number. -/
def text (t : NumberText) : List Char :=
  t.whole.chars ++ (fractionText t.fraction ++ exponentText t.exponent)

/-- The digits after the point. -/
def decimals (t : NumberText) : List Char :=
  (t.fraction.map Digits.chars).getD []

/-- The power of ten that an exponent writes. -/
def power : Option (Bool × Digits) → Int
  | none => 0
  | some (negative, ds) =>
    let size : Int := Decimal.value ds.chars
    if negative then -size else size

/-- The decimal that a text writes. -/
def decimal (t : NumberText) : Scientific :=
  ⟨Decimal.value (t.whole.chars ++ t.decimals), power t.exponent - t.decimals.length⟩

/-- The decimal that is taken up of it. -/
def reading (t : NumberText) : Scientific :=
  let d := taken t.whole.chars t.decimals
  ⟨d.digits, d.exponent + power t.exponent⟩

/-- A text with a point or an exponent. -/
def Marked (t : NumberText) : Prop :=
  t.fraction ≠ none ∨ t.exponent ≠ none

end NumberText

/-- A character that is no part of a number. -/
def EndsNumber (c : Char) : Prop :=
  isDigit c = false ∧ c ≠ '.' ∧ c ≠ 'e' ∧ c ≠ 'E'

instance (c : Char) : Decidable (EndsNumber c) := by
  unfold EndsNumber
  infer_instance

/-- Nothing that would be part of a number comes first. -/
def Ends (rest : List Glyph) : Prop :=
  ∀ c, some c ∈ rest.head? → EndsNumber c

/-! ## Reading them -/

variable {rest : List Glyph}

/-- Digits are read up to the first glyph that is none. -/
theorem leadingDigits_append {cs : List Char} (h : ∀ c ∈ cs, isDigit c = true)
    (hrest : ∀ c, some c ∈ rest.head? → isDigit c = false) :
    leadingDigits (cs.map some ++ rest) = (cs, rest) := by
  induction cs with
  | nil =>
    rw [List.map_nil, List.nil_append]
    unfold leadingDigits
    split
    · next c rest =>
      rw [hrest c rfl]
      rfl
    · rfl
  | cons c cs ih =>
    obtain ⟨hc, hcs⟩ := List.forall_mem_cons.mp h
    rw [List.map_cons, List.cons_append, leadingDigits, hc, ih hcs]
    rfl

theorem someDigits_append (ds : Digits) (hrest : ∀ c, some c ∈ rest.head? → isDigit c = false) :
    someDigits (ds.chars.map some ++ rest) = .ok (ds.chars, rest) := by
  obtain ⟨c, cs, hcs⟩ := List.exists_cons_of_ne_nil ds.ne_nil
  rw [someDigits, leadingDigits_append ds.isDigits hrest, hcs]

/-- The digits before the point. -/
theorem wholeDigits_append (t : NumberText)
    (hrest : ∀ c, some c ∈ rest.head? → isDigit c = false) :
    wholeDigits (t.whole.chars.map some ++ rest) = .ok (t.whole.chars, rest) := by
  have hdigits := someDigits_append t.whole hrest
  unfold wholeDigits
  rw [hdigits]
  simp only [Bind.bind, Except.bind]
  split
  · next d ds hzero => exact absurd (t.single _ hzero) (by simp)
  · rfl

/-- The point and the digits after it, if there are any. -/
theorem fractionDigits_append (f : Option Digits)
    (hrest : ∀ c, some c ∈ rest.head? → isDigit c = false ∧ c ≠ '.') :
    fractionDigits ((NumberText.fractionText f).map some ++ rest) =
      .ok (f.map Digits.chars, rest) := by
  cases f with
  | none =>
    rw [NumberText.fractionText, List.map_nil, List.nil_append]
    unfold fractionDigits
    split
    · exact absurd rfl (hrest '.' rfl).2
    · rfl
  | some ds =>
    rw [NumberText.fractionText, List.map_cons, List.cons_append, fractionDigits,
      someDigits_append ds fun c hc => (hrest c hc).1]
    rfl

/-- The exponent, if there is one. -/
theorem exponentPart_append (e : Option (Bool × Digits)) (hrest : Ends rest) :
    exponentPart ((NumberText.exponentText e).map some ++ rest) =
      .ok (e.map fun _ => NumberText.power e, rest) := by
  cases e with
  | none =>
    rw [NumberText.exponentText, List.map_nil, List.nil_append]
    unfold exponentPart
    split
    · next mark rest =>
      obtain ⟨-, -, he, hE⟩ := hrest mark rfl
      rw [if_neg (not_or.mpr ⟨he, hE⟩)]
      rfl
    · rfl
  | some e =>
    obtain ⟨negative, ds⟩ := e
    have hdigits := someDigits_append ds fun c hc => (hrest c hc).1
    cases negative with
    | false =>
      simp [NumberText.exponentText, exponentPart, hdigits, NumberText.power]
      rfl
    | true =>
      simp [NumberText.exponentText, exponentPart, hdigits, NumberText.power]
      rfl

/-- More digits make no smaller number. -/
theorem value_le_append (cs ds : List Char) :
    Decimal.value cs ≤ Decimal.value (cs ++ ds) := by
  induction ds using List.reverseRecOn with
  | nil => rw [List.append_nil]
  | append_singleton ds d ih =>
    rw [← List.append_assoc, value_concat]
    omega

/-- Digits are taken up as long as the number that they write does not grow too large. -/
theorem takeUp_of_le {cs ds : List Char}
    (h : (Decimal.value (cs ++ ds) : Int) ≤ greatestInteger) :
    takeUp (Decimal.value cs) ds = (Decimal.value (cs ++ ds), 0) := by
  induction ds generalizing cs with
  | nil => rw [takeUp, List.append_nil]
  | cons d ds ih =>
    rw [List.append_cons] at h ⊢
    have hnext := value_le_append (cs ++ [d]) ds
    rw [takeUp]
    simp only [← value_concat]
    rw [if_pos (by omega), ih h]

theorem taken_of_le {whole fraction : List Char}
    (h : (Decimal.value (whole ++ fraction) : Int) ≤ greatestInteger) :
    taken whole fraction = ⟨Decimal.value (whole ++ fraction), -fraction.length⟩ := by
  have hwhole : (Decimal.value ([] ++ whole) : Int) ≤ greatestInteger := by
    have hle := value_le_append whole fraction
    rw [List.nil_append]
    omega
  have hfront : takeUp 0 whole = (Decimal.value whole, 0) := takeUp_of_le hwhole
  rw [taken, hfront]
  simp only [takeUp_of_le h]
  congr 1
  omega

namespace NumberText

/-- What a text writes, after its sign. -/
def meaning (t : NumberText) (negative : Bool) : Tree :=
  match t.fraction, t.exponent with
  | none, none => wholeTree negative t.whole.chars
  | _, _ => floatTree negative t.reading

/-- An exponent starts with its mark. -/
theorem exponentText_head (e : Option (Bool × Digits)) (hrest : Ends rest) :
    ∀ c, some c ∈ ((exponentText e).map some ++ rest).head? → isDigit c = false ∧ c ≠ '.' := by
  intro c hc
  cases e with
  | none => exact ⟨(hrest c hc).1, (hrest c hc).2.1⟩
  | some e =>
    have hmark : 'e' = c := by simpa [exponentText] using hc
    exact hmark ▸ by decide

/-- A fraction starts with its point. -/
theorem fractionText_head (f : Option Digits) (e : Option (Bool × Digits)) (hrest : Ends rest) :
    ∀ c, some c ∈ ((fractionText f).map some ++ ((exponentText e).map some ++ rest)).head? →
      isDigit c = false := by
  intro c hc
  cases f with
  | none => exact (exponentText_head e hrest c hc).1
  | some ds =>
    have hpoint : '.' = c := by simpa [fractionText] using hc
    exact hpoint ▸ by decide

/-- **A number is read as what it writes**, as long as nothing follows that would be part of it. -/
theorem magnitude_text (t : NumberText) (negative : Bool) (hrest : Ends rest) :
    magnitude negative (t.text.map some ++ rest) = .ok (t.meaning negative, rest) := by
  have hsplit : t.text.map some ++ rest = t.whole.chars.map some ++
      ((fractionText t.fraction).map some ++ ((exponentText t.exponent).map some ++ rest)) := by
    simp [text]
  unfold magnitude
  rw [hsplit, wholeDigits_append t (fractionText_head _ _ hrest)]
  simp only [Bind.bind, Except.bind]
  rw [fractionDigits_append _ (exponentText_head _ hrest)]
  simp only [exponentPart_append _ hrest]
  rw [meaning]
  cases hf : t.fraction <;> cases he : t.exponent <;>
    simp [hf, he, reading, decimals, power]

theorem meaning_of_marked {t : NumberText} (h : t.Marked) (negative : Bool) :
    t.meaning negative = floatTree negative t.reading := by
  rw [meaning]
  split
  · next hf he => exact absurd h (by simp [Marked, hf, he])
  · rfl

/-- The first character of a number is a digit. -/
theorem exists_cons (t : NumberText) : ∃ c cs, t.text = c :: cs ∧ isDigit c = true := by
  obtain ⟨c, cs, hcs⟩ := List.exists_cons_of_ne_nil t.whole.ne_nil
  refine ⟨c, _, by rw [text, hcs, List.cons_append], t.whole.isDigits c ?_⟩
  rw [hcs]
  exact List.mem_cons_self

/-- **Digits that 64 bits hold are all taken up**, so that the decimal is read as it is written. -/
theorem reading_eq_decimal {t : NumberText} (h : (t.decimal.digits : Int) ≤ greatestInteger) :
    t.reading = t.decimal := by
  rw [reading, taken_of_le h]
  exact congrArg (Scientific.mk _) (neg_add_eq_sub _ _)

end NumberText

/-! ## Integers -/

theorem numeral_zero : numeral 0 = ['0'] := by
  rw [numeral]
  rfl

/-- Only zero is written with a zero in front. -/
theorem numeral_ne_zero_cons {n : Nat} (hn : n ≠ 0) (cs : List Char) : numeral n ≠ '0' :: cs := by
  induction n using Nat.strongRecOn generalizing cs with
  | ind n ih =>
    rw [numeral]
    split
    · next hlt =>
      have hdigit : ∀ d : Fin 10, d.val ≠ 0 → digit d.val ≠ '0' := by decide
      intro h
      exact hdigit ⟨n, hlt⟩ hn (List.cons.inj h).1
    · next hge =>
      intro h
      obtain ⟨d, ds, hds⟩ := List.exists_cons_of_ne_nil (numeral_ne_nil (n / 10))
      rw [hds, List.cons_append] at h
      obtain ⟨rfl, -⟩ := List.cons.inj h
      exact ih (n / 10) (by omega) (by omega) ds hds

theorem exists_numeral_cons {n : Nat} (hn : n ≠ 0) :
    ∃ c cs, numeral n = c :: cs ∧ c ≠ '0' := by
  obtain ⟨c, cs, hcs⟩ := List.exists_cons_of_ne_nil (numeral_ne_nil n)
  refine ⟨c, cs, hcs, ?_⟩
  rintro rfl
  exact numeral_ne_zero_cons hn cs hcs

theorem numeral_single {n : Nat} (cs : List Char) (h : numeral n = '0' :: cs) : cs = [] := by
  by_cases hn : n = 0
  · subst hn
    exact (List.cons.inj (numeral_zero.symm.trans h)).2.symm
  · exact absurd h (numeral_ne_zero_cons hn cs)

/-- The digits of a number. -/
def Digits.ofNat (n : Nat) : Digits :=
  ⟨numeral n, fun _ => isDigit_of_mem_numeral, numeral_ne_nil n⟩

@[simp] theorem Digits.chars_ofNat (n : Nat) : (ofNat n).chars = numeral n := rfl

namespace NumberText

/-- The text of a natural number. -/
def ofNat (n : Nat) : NumberText :=
  ⟨.ofNat n, numeral_single, none, none⟩

theorem text_ofNat (n : Nat) : (ofNat n).text = numeral n := by
  simp [text, ofNat, fractionText, exponentText]

theorem meaning_ofNat (n : Nat) (negative : Bool) :
    (ofNat n).meaning negative = wholeTree negative (numeral n) := by
  simp [meaning, ofNat]

/-- A text with its sign. -/
def signed (t : NumberText) (negative : Bool) : List Char :=
  if negative then '-' :: t.text else t.text

/-- **An integer of 64 bits reads back.** -/
theorem integer_readBack {n : Int} (h : Fits n) :
    ∃ t : NumberText, ∃ negative, (intText n).toList = t.signed negative ∧
      t.meaning negative = .integer n := by
  refine ⟨ofNat n.natAbs, decide (n < 0), ?_, ?_⟩
  · rw [intText, signed, text_ofNat]
    by_cases hn : n < 0 <;> simp [hn, natText]
  · rw [meaning_ofNat, wholeTree]
    simp only [value_numeral]
    have hsize : (if decide (n < 0) = true then -(n.natAbs : Int) else n.natAbs) = n := by
      split
      · next hn => rw [decide_eq_true_eq] at hn; omega
      · next hn => rw [decide_eq_true_eq] at hn; omega
    have hminus : (decide (n < 0) && n.natAbs == 0) = false := by
      simp
      omega
    rw [hsize, hminus]
    exact if_pos h

end NumberText

/-! ## Doubles -/

namespace Digits

/-- Zeros before digits. -/
def zerosBefore (k : Nat) (ds : Digits) : Digits where
  chars := List.replicate k '0' ++ ds.chars
  isDigits := isDigit_of_mem_zeros_append ds.isDigits k
  ne_nil := by simp [ds.ne_nil]

/-- Zeros after digits. -/
def zerosAfter (k : Nat) (ds : Digits) : Digits where
  chars := ds.chars ++ List.replicate k '0'
  isDigits := fun c hc => isDigit_of_mem_zeros_append ds.isDigits k c (by
    rw [List.mem_append] at hc ⊢
    exact hc.symm)
  ne_nil := by simp [ds.ne_nil]

/-- The digits in front, one more than `k`. -/
def front (k : Nat) (ds : Digits) : Digits where
  chars := ds.chars.take (k + 1)
  isDigits := fun c hc => ds.isDigits c (List.mem_of_mem_take hc)
  ne_nil := by simp [ds.ne_nil]

/-- The digits behind those in front. -/
def behind (k : Nat) (ds : Digits) (h : k + 1 < ds.chars.length) : Digits where
  chars := ds.chars.drop (k + 1)
  isDigits := fun c hc => ds.isDigits c (List.mem_of_mem_drop hc)
  ne_nil := by simpa using h

/-- The digit zero. -/
def zero : Digits := ⟨['0'], List.forall_mem_singleton.mpr (by decide), by simp⟩

@[simp] theorem chars_zerosBefore (k : Nat) (ds : Digits) :
    (ds.zerosBefore k).chars = List.replicate k '0' ++ ds.chars := rfl

@[simp] theorem chars_zerosAfter (k : Nat) (ds : Digits) :
    (ds.zerosAfter k).chars = ds.chars ++ List.replicate k '0' := rfl

@[simp] theorem chars_front (k : Nat) (ds : Digits) :
    (ds.front k).chars = ds.chars.take (k + 1) := rfl

@[simp] theorem chars_behind (k : Nat) (ds : Digits) (h : k + 1 < ds.chars.length) :
    (ds.behind k h).chars = ds.chars.drop (k + 1) := rfl

@[simp] theorem chars_zero : zero.chars = ['0'] := rfl

end Digits

namespace NumberText

section Layout

variable {d : Scientific} (hd : d.digits ≠ 0)

/-- A text with a point or an exponent that writes a given decimal,
or writes it with `.0` behind. -/
structure Writes (t : NumberText) (d : Scientific) (cs : List Char) : Prop where
  text_eq : t.text = cs
  marked : t.Marked
  decimal_eq : t.decimal = d ∨
    0 ≤ d.exponent ∧ t.decimal = ⟨d.digits * 10 ^ (d.exponent.toNat + 1), -1⟩

/-- A decimal with `.0` behind it has the same value. -/
theorem Writes.toRat_eq {t : NumberText} {cs : List Char} (h : t.Writes d cs) :
    t.decimal.toRat = d.toRat := by
  obtain heq | ⟨hexp, heq⟩ := h.decimal_eq
  · rw [heq]
  · have hten : (10 : ℚ) ^ d.exponent = 10 ^ d.exponent.toNat := by
      rw [← zpow_natCast, Int.toNat_of_nonneg hexp]
    rw [heq, Scientific.toRat, Scientific.toRat, hten]
    push_cast
    rw [pow_succ, zpow_neg_one]
    field_simp

/-- Digits below the point. -/
theorem writes_below_point (k : Nat) (hexp : d.exponent = -(k + (numeral d.digits).length : Nat)) :
    ∃ t : NumberText, t.Writes d ('0' :: '.' :: (List.replicate k '0' ++ numeral d.digits)) := by
  refine ⟨⟨.zero, by simp, some ((Digits.ofNat d.digits).zerosBefore k), none⟩, ?_, ?_, ?_⟩
  · simp [text, fractionText, exponentText]
  · simp [Marked]
  · have hvalue : Decimal.value ('0' :: (List.replicate k '0' ++ numeral d.digits)) = d.digits :=
      (value_zeros (k + 1) _).trans (value_numeral _)
    refine .inl ?_
    change _ = Scientific.mk d.digits d.exponent
    rw [hexp]
    simp [decimal, decimals, power, hvalue]

include hd

/-- A whole number with `.0` behind it. -/
theorem writes_whole (k : Nat) (hexp : d.exponent = k) :
    ∃ t : NumberText, t.Writes d (numeral d.digits ++ List.replicate k '0' ++ ['.', '0']) := by
  have hsingle : ∀ rest, numeral d.digits ++ List.replicate k '0' = '0' :: rest → rest = [] := by
    intro rest h
    obtain ⟨c, cs, hcs, hc⟩ := exists_numeral_cons hd
    rw [hcs, List.cons_append] at h
    exact absurd (List.cons.inj h).1 hc
  refine ⟨⟨(Digits.ofNat d.digits).zerosAfter k, hsingle, some .zero, none⟩, ?_, ?_, ?_⟩
  · simp [text, fractionText, exponentText]
  · simp [Marked]
  · have hvalue : Decimal.value (numeral d.digits ++ List.replicate k '0' ++ ['0']) =
        d.digits * 10 ^ (k + 1) := by
      rw [List.append_assoc, ← List.replicate_succ', value_append_zeros, value_numeral]
    refine .inr ⟨by omega, ?_⟩
    rw [hexp, Int.toNat_natCast, ← hvalue]
    simp [decimal, decimals, power]

/-- The front of digits whose first is not zero. -/
theorem single_front (k : Nat) (rest : List Char)
    (h : (numeral d.digits).take (k + 1) = '0' :: rest) : rest = [] := by
  obtain ⟨c, cs, hcs, hc⟩ := exists_numeral_cons hd
  rw [hcs, List.take_succ_cons] at h
  exact absurd (List.cons.inj h).1 hc

/-- A point between the digits. -/
theorem writes_around_point (k : Nat) (hk : k + 1 < (numeral d.digits).length)
    (hexp : d.exponent = -((numeral d.digits).length - (k + 1) : Nat)) :
    ∃ t : NumberText, t.Writes d
      ((numeral d.digits).take (k + 1) ++ '.' :: (numeral d.digits).drop (k + 1)) := by
  refine ⟨⟨(Digits.ofNat d.digits).front k, single_front hd k,
    some ((Digits.ofNat d.digits).behind k (by simpa using hk)), none⟩, ?_, ?_, ?_⟩
  · simp [text, fractionText, exponentText]
  · simp [Marked]
  · refine .inl ?_
    change _ = Scientific.mk d.digits d.exponent
    simp only [decimal, decimals, power, Digits.chars_front, Digits.chars_behind,
      Digits.chars_ofNat, Option.map_some, Option.getD_some, List.take_append_drop, value_numeral,
      hexp, List.length_drop, zero_sub]

/-- Digits with an exponent. -/
theorem writes_withExponent (lead : Int)
    (hexp : d.exponent = lead - ((numeral d.digits).length - 1 : Nat)) :
    ∃ t : NumberText, t.Writes d (Layout.withExponent (numeral d.digits) lead) := by
  have hpower : power (some (decide (lead < 0), Digits.ofNat lead.natAbs)) = lead := by
    rw [power, Digits.chars_ofNat, value_numeral]
    split
    · next h => rw [decide_eq_true_eq] at h; omega
    · next h => rw [decide_eq_true_eq] at h; omega
  obtain ⟨c, cs, hcs⟩ := List.exists_cons_of_ne_nil (numeral_ne_nil d.digits)
  cases cs with
  | nil =>
    refine ⟨⟨.ofNat d.digits, numeral_single, none,
      some (decide (lead < 0), .ofNat lead.natAbs)⟩, ?_, ?_, ?_⟩
    · rw [hcs]
      simp [text, fractionText, exponentText, Layout.withExponent, hcs]
    · simp [Marked]
    · rw [hcs] at hexp
      refine .inl ?_
      change _ = Scientific.mk d.digits d.exponent
      simp [decimal, decimals, hpower, hexp, value_numeral]
  | cons e cs =>
    have hlen : 0 + 1 < (Digits.ofNat d.digits).chars.length := by simp [hcs]
    refine ⟨⟨(Digits.ofNat d.digits).front 0, single_front hd 0,
      some ((Digits.ofNat d.digits).behind 0 hlen),
      some (decide (lead < 0), .ofNat lead.natAbs)⟩, ?_, ?_, ?_⟩
    · rw [hcs]
      simp [text, fractionText, exponentText, Layout.withExponent, hcs]
    · simp [Marked]
    · refine .inl ?_
      change _ = Scientific.mk d.digits d.exponent
      simp only [decimal, decimals, Digits.chars_front, Digits.chars_behind, Digits.chars_ofNat,
        Option.map_some, Option.getD_some, List.take_append_drop, value_numeral,
        hexp, List.length_drop, hpower, zero_add]

omit hd in
/-- **The digits of a decimal other than zero, laid out for JSON.** -/
theorem exists_writes (hd : d.digits ≠ 0) (lead : Int)
    (hlead : lead = d.exponent + (numeral d.digits).length - 1) :
    ∃ t : NumberText, t.Writes d (if Layout.json.positional lead then
      Layout.json.inFull (numeral d.digits) lead
        else Layout.withExponent (numeral d.digits) lead) := by
  have hlen : 0 < (numeral d.digits).length := List.length_pos_iff.mpr (numeral_ne_nil _)
  split
  · rw [Layout.inFull]
    split
    · exact writes_below_point _ (by omega)
    · dsimp only
      split
      · exact writes_whole hd _ (by omega)
      · exact writes_around_point hd _ (by omega) (by omega)
  · exact writes_withExponent hd lead (by omega)

end Layout

theorem shortest_digits_ne_zero {x : Float} {m : Nat} {e : Int} {hm : 0 < m}
    (hu : x.toModel.unpack = .finite .positive m e hm) : (shortest x).digits ≠ 0 := by
  intro h
  have hzero := shortest_toFloat hu
  rw [Scientific.toFloat, if_pos h] at hzero
  rw [← hzero] at hu
  cases hu

/-- **The text of a finite double** other than zero: its shortest digits, after its sign. -/
theorem exists_writes_of_unpack {x : Float} {s : UnpackedFloat.Sign} {m : Nat} {e : Int}
    {hm : 0 < m} (hu : x.toModel.unpack = .finite s m e hm) :
    ∃ t : NumberText, t.Writes (shortest x.abs) (Layout.json.magnitude x.abs) ∧
      (Layout.json.write x).toList = t.signed (isNegative x) := by
  obtain ⟨t, ht⟩ := exists_writes (shortest_digits_ne_zero (unpack_abs hu)) _ rfl
  refine ⟨t, ht, ?_⟩
  rw [Layout.write_of_unpack _ hu, String.toList_ofList, signed, ht.text_eq]
  rfl

/-- Every finite double has a text with a point or an exponent. -/
theorem exists_marked {x : Float} (h : x.isFinite = true) :
    ∃ t : NumberText, t.Marked ∧ (Layout.json.write x).toList = t.signed (isNegative x) := by
  obtain rfl | rfl | ⟨s, m, e, hm, hu⟩ := zero_or_unpack h
  · exact ⟨⟨.zero, by simp, some .zero, none⟩, by simp [Marked], by decide +kernel⟩
  · exact ⟨⟨.zero, by simp, some .zero, none⟩, by simp [Marked], by decide +kernel⟩
  · obtain ⟨t, ht, htext⟩ := exists_writes_of_unpack hu
    exact ⟨t, ht.marked, htext⟩

end NumberText

end Dunning.Json
