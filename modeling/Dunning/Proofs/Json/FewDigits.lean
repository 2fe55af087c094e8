import Dunning.Proofs.Json.Printed

/-!
# Proofs/Json/FewDigits — doubles of few digits read back

A text is read in up to three roundings: of its digits, of a power of ten, and of what comes of the
two.  Digits below `2 ^ 53` and powers up to `10 ^ 22` are doubles, so that of the three the last
one is left, and gives the double nearest to the text (`scaled_ofInt`):

    12.34                 1234 / 10²               read as 12.34
    9007199254740991.0    90071992547409910 / 10   read as 9007199254740990.0

Hence a double reads back if its shortest digits are few (`readsBack_of_isShort`): all do that have
at most fifteen digits, no more than fourteen of them before the point and no more than 22 places
behind it.
-/

namespace Dunning.Json

open Decimal

/-! ## Three roundings that are one -/

section Scaled

variable {n : Nat} {e : Int}

theorem powerOfTen_eq_ofRat (k : Nat) : powerOfTen k = ofRat (10 ^ k) := by
  rw [powerOfTen, toFloat_eq_ofRat, Scientific.toRat, Nat.cast_one, one_mul, zpow_natCast]

/-- **Few digits are read as the double nearest to what they write.** -/
theorem scaled_ofInt (hn : 0 < n) (h : n < 2 ^ 53) (he : e.natAbs ≤ 22) :
    scaled (ofInt n) e = Scientific.toFloat ⟨n, e⟩ := by
  have hword := exact_ofInt hn h
  have hten : Exact (powerOfTen e.natAbs) (10 ^ e.natAbs) := by
    rw [powerOfTen_eq_ofRat]
    exact exact_ten_pow he
  rw [toFloat_eq_ofRat, Scientific.toRat, scaled]
  by_cases hneg : e < 0
  · rw [if_pos hneg, divided, if_pos (by rw [greatestPower]; omega), hword.div hten,
      zpow_of_neg hneg]
  · rw [if_neg hneg, if_pos (by rw [greatestPower]; omega), hword.mul hten,
      zpow_of_nonneg (not_lt.mp hneg)]

end Scaled

/-! ## Texts of few digits -/

/-- A decimal that is written with digits below `2 ^ 53`, also where `.0` comes behind them, and
with no more than 22 places behind the point. -/
def IsShort (d : Scientific) : Prop :=
  d.digits * 10 ^ (d.exponent + 1).toNat < 2 ^ 53 ∧ -22 ≤ d.exponent

instance (d : Scientific) : Decidable (IsShort d) := by
  unfold IsShort
  infer_instance

namespace NumberText

variable {t : NumberText} {d : Scientific} {cs : List Char}

/-- The digits that write a short decimal are few. -/
theorem Writes.few_digits (h : t.Writes d cs) (hd : d.digits ≠ 0) (hshort : IsShort d) :
    0 < t.decimal.digits ∧ t.decimal.digits < 2 ^ 53 ∧ t.decimal.exponent.natAbs ≤ 22 := by
  obtain ⟨hdigits, hexp⟩ := hshort
  have hpos : 0 < d.digits := Nat.pos_of_ne_zero hd
  have hpower : 10 ^ (d.exponent + 1).toNat < 10 ^ 16 :=
    ((Nat.le_mul_of_pos_left _ hpos).trans_lt hdigits).trans (by decide)
  have hsize : (d.exponent + 1).toNat < 16 := (Nat.pow_lt_pow_iff_right (by decide)).1 hpower
  obtain heq | ⟨hwhole, heq⟩ := h.decimal_eq <;> rw [heq]
  · exact ⟨hpos, (Nat.le_mul_of_pos_right _ (Nat.pow_pos (by decide))).trans_lt hdigits, by omega⟩
  · have hplaces : (d.exponent + 1).toNat = d.exponent.toNat + 1 := by omega
    rw [hplaces] at hdigits
    exact ⟨Nat.mul_pos hpos (Nat.pow_pos (by decide)), hdigits, by simp⟩

/-- **A text of few digits says the double nearest to what it writes.** -/
theorem Writes.meaning_eq (h : t.Writes d cs) (hd : d.digits ≠ 0) (hshort : IsShort d)
    (hfinite : d.toFloat.isFinite = true) (negative : Bool) :
    t.meaning negative = .float (if negative then -d.toFloat else d.toFloat) := by
  obtain ⟨hpos, hlt, hexp⟩ := h.few_digits hd hshort
  have hreading : t.reading = t.decimal := reading_eq_decimal (by
    have hgreatest : greatestInteger = 18446744073709551615 := rfl
    omega)
  have hscaled : scaled (ofInt t.decimal.digits) t.decimal.exponent = d.toFloat := by
    rw [scaled_ofInt hpos hlt hexp, toFloat_eq_ofRat, toFloat_eq_ofRat, ← h.toRat_eq]
  rw [meaning_of_marked h.marked, floatTree, hreading, hscaled, if_pos hfinite]

end NumberText

/-- **A double of few digits reads back.** -/
theorem readsBack_of_isShort {x : Float} (hx : x.isFinite = true)
    (hshort : IsShort (shortest x.abs)) : ReadsBack x := by
  obtain rfl | rfl | ⟨s, m, e, hm, hu⟩ := zero_or_unpack hx
  · decide +kernel
  · decide +kernel
  · obtain ⟨t, ht, htext⟩ := NumberText.exists_writes_of_unpack hu
    have habs := unpack_abs hu
    have hsize := shortest_toFloat habs
    have hfinite : (shortest x.abs).toFloat.isFinite = true := by
      rw [hsize]
      exact isFinite_of_unpack habs
    have hmeaning := ht.meaning_eq (NumberText.shortest_digits_ne_zero habs) hshort hfinite
      (isNegative x)
    rw [hsize, signed_abs hu] at hmeaning
    exact (readsBack_iff hx ht.marked htext).2 hmeaning

/-- Sixteen digits before the point can be too many. -/
example : ¬ ReadsBack 9007199254740991 := by decide +kernel

end Dunning.Json
