import Dunning.Decimal.Shortest
import Dunning.Proofs.Decimal.Rounding

/-!
# Proofs/Decimal/Nearest — the double of a decimal

A decimal is read in two ways: through a table of powers of ten that doubles hold exactly, where the
digits are few and the power is small, and by one long multiplication or division otherwise.  Both
round the value of the decimal once, and so do the two cut-offs in front of them:

  `d.toFloat = ofRat d.toRat`             (`toFloat_eq_ofRat`)

so that decimals of one value read as one double.  The table is right because `10 ^ k` for `k ≤ 22`
is `5 ^ k`, which has 53 bits at most, times a power of two (`exact_powerOfTen`).  What is well
below the greatest double rounds to a finite one, so every whole number of 64 bits does
(`isFinite_ofInt`).
-/

namespace Dunning.Decimal

open Float.Model Float.Model.UnpackedFloat

/-- The double nearest to a nonnegative number. -/
def ofRat (q : ℚ) : Float :=
  Float.ofModel (Float.Model.pack (nearest .positive q))

/-- The number that a decimal stands for. -/
def Scientific.toRat (d : Scientific) : ℚ :=
  d.digits * 10 ^ d.exponent

/-! ## Doubles that are exact -/

/-- A double that is a positive number without an error, all its 53 bits in use. -/
def Exact (x : Float) (q : ℚ) : Prop :=
  ∃ m e hm, x.toModel.unpack = .finite .positive m e hm ∧ 2 ^ 52 ≤ m ∧ (m * 2 ^ e : ℚ) = q

variable {x y : Float} {p q : ℚ}

theorem Exact.mul (hx : Exact x p) (hy : Exact y q) : x * y = ofRat (p * q) := by
  obtain ⟨m₁, e₁, hm₁, hu₁, hfull, rfl⟩ := hx
  obtain ⟨m₂, e₂, hm₂, hu₂, -, rfl⟩ := hy
  show Float.ofModel (Float.Model.pack (UnpackedFloat.mul Format.binary64 _ _)) = _
  rw [hu₁, hu₂, mul_eq_nearest (hfull.trans (Nat.le_mul_of_pos_right m₁ hm₂))]
  rfl

theorem Exact.div (hx : Exact x p) (hy : Exact y q) : x / y = ofRat (p / q) := by
  obtain ⟨m₁, e₁, hm₁, hu₁, -, rfl⟩ := hx
  obtain ⟨m₂, e₂, hm₂, hu₂, -, rfl⟩ := hy
  show Float.ofModel (Float.Model.pack (UnpackedFloat.div Format.binary64 _ _)) = _
  rw [hu₁, hu₂, div_eq_nearest]
  rfl

section Shifted

variable {n : Nat} {k : Int}

/-- A number of at most 53 bits, shifted until it has all of them. -/
def shifted (n : Nat) : Nat :=
  n * 2 ^ (52 - n.log2)

theorem shifted_pos (hn : 0 < n) : 0 < shifted n :=
  Nat.mul_pos hn (Nat.two_pow_pos _)

theorem le_shifted (hn : 0 < n) : 2 ^ 52 ≤ shifted n :=
  calc 2 ^ 52 ≤ 2 ^ (n.log2 + (52 - n.log2)) := Nat.pow_le_pow_right two_pos (by omega)
    _ = 2 ^ n.log2 * 2 ^ (52 - n.log2) := pow_add _ _ _
    _ ≤ shifted n := Nat.mul_le_mul_right _ (Nat.log2_self_le hn.ne')

theorem canonical_shifted (hn : 0 < n) (h : n < 2 ^ 53) (hk : -1022 ≤ k) :
    Canonical (shifted n) (k + n.log2 - 52) := by
  have hlog := log2_le h
  refine ⟨?_, by omega, .inl (le_shifted hn)⟩
  calc shifted n < 2 ^ (n.log2 + 1) * 2 ^ (52 - n.log2) :=
        Nat.mul_lt_mul_of_pos_right Nat.lt_log2_self (Nat.two_pow_pos _)
    _ = 2 ^ 53 := by rw [← pow_add]; congr 1; omega

theorem shifted_mul_zpow (h : n < 2 ^ 53) (k : Int) :
    (shifted n * 2 ^ (k + n.log2 - 52) : ℚ) = n * 2 ^ k := by
  have hlog := log2_le h
  rw [shifted, Nat.cast_mul, Nat.cast_pow, Nat.cast_ofNat, mul_assoc, ← zpow_natCast,
    ← zpow_add₀ two_ne_zero]
  congr 2
  omega

/-- **A number of 53 bits times a power of two** is a double. -/
theorem ofRat_shifted (hn : 0 < n) (h : n < 2 ^ 53) (hk : -1022 ≤ k) :
    ofRat (n * 2 ^ k) = Float.ofModel (Float.Model.pack
      (.finite .positive (shifted n) (k + n.log2 - 52) (shifted_pos hn))) := by
  have hnearest : nearest .positive (shifted n * 2 ^ (k + n.log2 - 52)) =
      .finite .positive _ _ (shifted_pos hn) := nearest_of_canonical (canonical_shifted hn h hk)
  rw [shifted_mul_zpow h] at hnearest
  rw [ofRat, hnearest]

/-- It is held without an error. -/
theorem exact_ofRat (hn : 0 < n) (h : n < 2 ^ 53) (hk : -1022 ≤ k) (hmax : k ≤ 971) :
    Exact (ofRat (n * 2 ^ k)) (n * 2 ^ k) := by
  have hlog := log2_le h
  rw [ofRat_shifted hn h hk]
  exact ⟨_, _, _, unpack_pack_finite (canonical_shifted hn h hk) (by omega), le_shifted hn,
    shifted_mul_zpow h k⟩

end Shifted

/-- A word of 53 bits as a double. -/
theorem exact_toFloat {w : UInt64} (hw : 0 < w.toNat) (h : w.toNat < 2 ^ 53) :
    Exact w.toFloat w.toNat := by
  have hround : UnpackedFloat.ofUInt64 Format.binary64 w =
      nearest .positive (w.toNat * 2 ^ (0 : Int)) := by
    have hcompare : compare (w.toNat : Int) 0 = .gt := by
      rw [Int.compare_eq_gt]
      omega
    rw [UnpackedFloat.ofUInt64, UnpackedFloat.ofNat, UnpackedFloat.ofInt, UnpackedFloat.normalize,
      hcompare]
    exact round_eq_nearest hw _ _
  have hexact := exact_ofRat hw h (k := 0) (by decide) (by decide)
  rw [ofRat, ← hround, zpow_zero, mul_one] at hexact
  exact hexact

section PowersOfTen

variable {k : Nat}

theorem ten_pow_eq (k : Nat) : (10 : ℚ) ^ k = (5 ^ k : Nat) * 2 ^ (k : Int) := by
  rw [zpow_natCast, Nat.cast_pow, ← mul_pow]
  norm_num

theorem five_pow_lt (hk : k ≤ 22) : 5 ^ k < 2 ^ 53 :=
  (Nat.pow_le_pow_right (by decide) hk).trans_lt (by decide)

/-- **Powers of ten up to the 22nd** are doubles, since ten is twice five. -/
theorem exact_ten_pow (hk : k ≤ 22) : Exact (ofRat (10 ^ k)) (10 ^ k) := by
  rw [ten_pow_eq]
  exact exact_ofRat (Nat.pow_pos (by decide)) (five_pow_lt hk) (by omega) (by omega)

theorem powersOfTen_eq : ∀ k : Fin Float.exactlyRepresentablePowersOfTen.size,
    Float.exactlyRepresentablePowersOfTen[k] = Float.ofModel (Float.Model.pack
      (.finite .positive (shifted (5 ^ k.val)) (k.val + (5 ^ k.val).log2 - 52)
        (shifted_pos (Nat.pow_pos (by decide))))) := by
  decide +kernel

/-- These are the powers of ten in the table. -/
theorem exact_powerOfTen (h : k < Float.exactlyRepresentablePowersOfTen.size) :
    Exact Float.exactlyRepresentablePowersOfTen[k] (10 ^ k) := by
  have hk : k ≤ 22 := Nat.le_of_lt_succ h
  have hentry : Float.exactlyRepresentablePowersOfTen[k] = ofRat (10 ^ k) := by
    rw [ten_pow_eq, ofRat_shifted (Nat.pow_pos (by decide)) (five_pow_lt hk) (by omega)]
    exact powersOfTen_eq ⟨k, h⟩
  rw [hentry]
  exact exact_ten_pow hk

end PowersOfTen

/-! ## Rounding a decimal -/

section Rounding

variable {n : Nat} {e : Int}

theorem zpow_of_neg (he : e < 0) : (n * 10 ^ e : ℚ) = n / 10 ^ e.natAbs := by
  rw [← zpow_natCast, Int.ofNat_natAbs_of_nonpos he.le, zpow_neg, div_inv_eq_mul]

theorem zpow_of_nonneg (he : 0 ≤ e) : (n * 10 ^ e : ℚ) = n * 10 ^ e.natAbs := by
  rw [← zpow_natCast, Int.natAbs_of_nonneg he]

/-- The conversion without the table. -/
theorem unpacked_ofScientific (hn : 0 < n) (hlow : -(2048 + (n.log2 : Int)) ≤ e)
    (hhigh : e ≤ 2048) :
    UnpackedFloat.ofScientific Format.binary64 n e = nearest .positive (n * 10 ^ e) := by
  have hsmall : ¬ e < -((2 ^ 11 : Int) + n.log2) := by omega
  rw [UnpackedFloat.ofScientific, dif_neg hn.ne', if_neg (by simpa using hhigh), if_neg hsmall]
  split
  · next he =>
    have hvalue : (n * 10 ^ e : ℚ) = (n <<< 53 : Nat) * 2 ^ (-53 : Int) *
        ((10 ^ e.toNat : Nat) * 2 ^ (0 : Int)) := by
      rw [zpow_of_nonneg he, Nat.shiftLeft_eq, show e.natAbs = e.toNat by omega, zpow_zero]
      push_cast
      rw [zpow_neg]
      field_simp
      norm_num
    have hfull : 2 ^ 52 ≤ n <<< 53 * 10 ^ e.toNat :=
      calc 2 ^ 52 ≤ 2 ^ 53 * (n * 10 ^ e.toNat) :=
            (by decide : 2 ^ 52 ≤ 2 ^ 53).trans (Nat.le_mul_of_pos_right _ (by positivity))
        _ = n <<< 53 * 10 ^ e.toNat := by rw [Nat.shiftLeft_eq]; ring
    rw [hvalue]
    exact mul_eq_nearest hfull
  · next he =>
    have hvalue : (n * 10 ^ e : ℚ) =
        n * 2 ^ (0 : Int) / ((10 ^ (-e).toNat : Nat) * 2 ^ (0 : Int)) := by
      rw [zpow_of_neg (by omega), show e.natAbs = (-e).toNat by omega, zpow_zero]
      push_cast
      ring
    rw [hvalue]
    exact div_eq_nearest

/-- **The conversion of a decimal rounds its value once**, through the table as without it. -/
theorem ofScientific_eq_ofRat (hn : 0 < n) (hlow : -(2048 + (n.log2 : Int)) ≤ e)
    (hhigh : e ≤ 2048) : Float.ofScientific n (e < 0) e.natAbs = ofRat (n * 10 ^ e) := by
  by_cases htable : n < 2 ^ 53 ∧ e.natAbs ≤ 22
  · have hword : n.toUInt64.toNat = n := by
      rw [Nat.toUInt64_eq, UInt64.toNat_ofNat', Nat.mod_eq_of_lt (by omega)]
    have hword' : Exact n.toUInt64.toFloat n := by
      have h := exact_toFloat (w := n.toUInt64) (by omega) (by omega)
      rwa [hword] at h
    have hsize : e.natAbs < Float.exactlyRepresentablePowersOfTen.size := Nat.lt_succ_of_le htable.2
    have hten := exact_powerOfTen hsize
    rw [Float.ofScientific, dif_pos htable]
    by_cases he : e < 0
    · rw [if_pos (decide_eq_true he), hword'.div hten, zpow_of_neg he]
    · rw [if_neg (by simpa using he), hword'.mul hten, zpow_of_nonneg (not_lt.mp he)]
  · have hsigned : (if decide (e < 0) then Int.negOfNat e.natAbs else Int.ofNat e.natAbs) = e := by
      by_cases he : e < 0
      · rw [if_pos (decide_eq_true he), Int.negOfNat_eq, Int.ofNat_eq_natCast]
        omega
      · rw [if_neg (by simpa using he), Int.ofNat_eq_natCast]
        omega
    rw [Float.ofScientific, dif_neg htable]
    simp only [hsigned, Float.Model.ofScientific, unpacked_ofScientific hn hlow hhigh]
    rfl

end Rounding

/-! ## Beyond the least and the greatest -/

/-- What is beyond the greatest double rounds to infinity. -/
theorem ofRat_of_large (h : 2 ^ (1024 : Int) ≤ q) : ofRat q = 1 / 0 := by
  have hpos : 0 < q := lt_of_lt_of_le (by positivity) h
  have hlog : 1024 ≤ Int.log 2 q := (Int.zpow_le_iff_le_log one_lt_two hpos).mp h
  have hgrid : grid q = Int.log 2 q - 52 := by rw [grid]; omega
  have hround := le_roundedMantissa hpos (by omega)
  have hpack : UnpackedFloat.pack Format.binary64 (nearest .positive q) =
      UnpackedFloat.pack Format.binary64 (.infinity .positive) := by
    rw [nearest, dif_neg (by omega)]
    split
    · exact pack_of_large (by omega)
    · exact pack_of_large (by omega)
  simp only [ofRat, Float.Model.pack, hpack]
  rfl

/-- What is less than half of a last place rounds to zero. -/
theorem ofRat_of_lt_half (hq : 0 ≤ q) (h : q / 2 ^ grid q < 1 / 2) : ofRat q = 0 := by
  have hpos : 0 ≤ q / 2 ^ grid q := by positivity
  have hlocated := located_add (m := 0) hpos (by linarith)
  rw [Nat.cast_zero, zero_add, decide_eq_false (not_le.mpr h)] at hlocated
  have hround : (located (q / 2 ^ grid q)).roundedMantissa = 0 := by
    rw [hlocated]
    cases decide (q / 2 ^ grid q ≠ 0 ∧ q / 2 ^ grid q ≠ 1 / 2) <;> rfl
  have hnearest : nearest .positive q = .zero .positive := by rw [nearest, dif_pos hround]
  rw [ofRat, hnearest]
  rfl

theorem ofRat_zero : ofRat 0 = 0 :=
  ofRat_of_lt_half le_rfl (by norm_num)

/-- What is less than half of the least double rounds to zero. -/
theorem ofRat_of_small (hpos : 0 < q) (h : q < 2 ^ (-1075 : Int)) : ofRat q = 0 := by
  have hlog : Int.log 2 q < -1075 := (Int.lt_zpow_iff_log_lt one_lt_two hpos).mp h
  have hgrid : grid q = -1074 := by rw [grid]; omega
  apply ofRat_of_lt_half hpos.le
  rw [hgrid, div_lt_iff₀ (by positivity)]
  calc q < 2 ^ (-1075 : Int) := h
    _ = 2 ^ (-1 : Int) * 2 ^ (-1074 : Int) := by rw [← zpow_add₀ two_ne_zero]; rfl
    _ = 1 / 2 * 2 ^ (-1074 : Int) := by norm_num

section Magnitude

variable {d : Scientific}

theorem lt_pow_length (n : Nat) : n < 10 ^ (Nat.toDigits 10 n).length :=
  (Nat.length_toDigits_le_iff (by decide) Nat.length_toDigits_pos).mp le_rfl

theorem pow_length_le {n : Nat} (hn : n ≠ 0) : 10 ^ ((Nat.toDigits 10 n).length - 1) ≤ n := by
  by_cases hone : (Nat.toDigits 10 n).length = 1
  · rw [hone]
    exact Nat.pos_of_ne_zero hn
  · have hpos : 0 < (Nat.toDigits 10 n).length := Nat.length_toDigits_pos
    have hlen := Nat.length_toDigits_le_iff (b := 10) (n := n)
      (k := (Nat.toDigits 10 n).length - 1) (by decide) (by omega)
    exact not_lt.mp fun h => absurd (hlen.mpr h) (by omega)

/-- The magnitude tells the first decimal place. -/
theorem Scientific.toRat_lt (d : Scientific) : d.toRat < 10 ^ d.magnitude := by
  have hlt : (d.digits : ℚ) < 10 ^ (Nat.toDigits 10 d.digits).length := by
    exact_mod_cast lt_pow_length d.digits
  rw [toRat, magnitude, zpow_add₀ (by norm_num), zpow_natCast]
  exact mul_lt_mul_of_pos_right hlt (by positivity)

theorem Scientific.le_toRat (hd : d.digits ≠ 0) : 10 ^ (d.magnitude - 1) ≤ d.toRat := by
  have hle : (10 ^ ((Nat.toDigits 10 d.digits).length - 1) : ℚ) ≤ d.digits := by
    exact_mod_cast pow_length_le hd
  have hpos : 0 < (Nat.toDigits 10 d.digits).length := Nat.length_toDigits_pos
  have hexp : d.magnitude - 1 = ((Nat.toDigits 10 d.digits).length - 1 : Nat) + d.exponent := by
    rw [magnitude]
    omega
  rw [toRat, hexp, zpow_add₀ (by norm_num), zpow_natCast]
  exact mul_le_mul_of_nonneg_right hle (by positivity)

end Magnitude

/-- **A decimal reads as the double nearest to its value.** -/
theorem toFloat_eq_ofRat (d : Scientific) : d.toFloat = ofRat d.toRat := by
  rw [Scientific.toFloat]
  split
  · next hd => rw [Scientific.toRat, hd, Nat.cast_zero, zero_mul, ofRat_zero]
  next hd =>
  have hle := Scientific.le_toRat hd
  have hlt := d.toRat_lt
  split
  · next hlarge =>
    refine (ofRat_of_large ?_).symm
    have hten : 2 ^ 1024 ≤ 10 ^ 310 := by decide +kernel
    calc (2 : ℚ) ^ (1024 : Int) ≤ 10 ^ (310 : Int) := by exact_mod_cast hten
      _ ≤ 10 ^ (d.magnitude - 1) := zpow_le_zpow_right₀ (by norm_num) (by omega)
      _ ≤ d.toRat := hle
  split
  · next hsmall =>
    refine (ofRat_of_small (lt_of_lt_of_le (by positivity) hle) ?_).symm
    have hten : 2 ^ 1075 ≤ 10 ^ 330 := by decide +kernel
    calc d.toRat < 10 ^ d.magnitude := hlt
      _ ≤ 10 ^ (-330 : Int) := zpow_le_zpow_right₀ (by norm_num) (by omega)
      _ ≤ 2 ^ (-1075 : Int) := by
        rw [zpow_neg, zpow_neg]
        exact inv_anti₀ (by positivity) (by exact_mod_cast hten)
  · next hlarge hsmall =>
    have hlen : (Nat.toDigits 10 d.digits).length ≤ d.digits.log2 + 1 := by
      rw [Nat.length_toDigits_le_iff (by decide) (Nat.succ_pos _)]
      exact Nat.lt_log2_self.trans_le (Nat.pow_le_pow_left (by decide) _)
    have hmag : d.magnitude = (Nat.toDigits 10 d.digits).length + d.exponent := rfl
    exact ofScientific_eq_ofRat (Nat.pos_of_ne_zero hd) (by omega) (by omega)

/-- An integer of 53 bits is a double. -/
theorem exact_ofInt {n : Nat} (hn : 0 < n) (h : n < 2 ^ 53) : Exact (ofInt n) n := by
  have hexact := exact_ofRat (k := 0) hn h (by decide) (by decide)
  rw [zpow_zero, mul_one] at hexact
  rwa [ofInt, if_neg (by omega), Int.natAbs_natCast, toFloat_eq_ofRat, Scientific.toRat, zpow_zero,
    mul_one]

/-! ## Finite numbers -/

theorem isFinite_ofRat (hq : 0 ≤ q) (h : q < 2 ^ (1023 : Int)) : (ofRat q).isFinite = true := by
  obtain rfl | hpos := hq.eq_or_lt
  · rw [ofRat_zero]
    decide
  have hlog : Int.log 2 q < 1023 := (Int.lt_zpow_iff_log_lt one_lt_two hpos).mp h
  have hgrid : grid q ≤ 970 := by rw [grid]; omega
  show (Float.Model.pack (nearest .positive q)).unpack.isFinite = true
  cases hn : nearest .positive q with
  | zero s => cases s <;> rfl
  | finite s m e hm =>
    obtain ⟨hcanonical, he⟩ := canonical_of_nearest hpos hn
    rw [unpack_pack_finite hcanonical (by omega)]
    rfl
  | infinity s | notANumber =>
    rw [nearest] at hn
    split at hn
    · cases hn
    · split at hn <;> cases hn

/-- **A whole number that 64 bits hold has a finite double.** -/
theorem isFinite_ofInt {n : Int} (h : n.natAbs < 2 ^ 65) : (ofInt n).isFinite = true := by
  have hsize : (Scientific.toFloat ⟨n.natAbs, 0⟩).isFinite = true := by
    rw [toFloat_eq_ofRat, Scientific.toRat, zpow_zero, mul_one]
    refine isFinite_ofRat (by positivity) ?_
    calc (n.natAbs : ℚ) < 2 ^ 65 := by exact_mod_cast h
      _ ≤ 2 ^ (1023 : Int) := by
        rw [← zpow_natCast]
        exact zpow_le_zpow_right₀ one_le_two (by decide)
  rw [ofInt]
  split
  · exact isFinite_neg hsize
  · exact hsize

end Dunning.Decimal
