import Mathlib
import Dunning.Decimal.Scientific

/-!
# Proofs/Decimal/Packing — a double and its fields

A double is a sign, an exponent and a mantissa side by side in 64 bits.  Packing puts the fields
together and unpacking reads them off; each undoes the other on what the format can hold:

  `pack (unpack x) = x`            for every double (`pack_unpack`), since there is one NaN
  `unpack (pack u) = u`            for a canonical number (`unpack_pack_finite`)

`Canonical m e` is the second side: 53 bits in full use unless the exponent is the least.  `parts`
and `isNegative` read the same fields by arithmetic (`parts_eq`, `isNegative_eq`).
-/

namespace Dunning.Decimal

open Float.Model Float.Model.UnpackedFloat

/-- The bits of a double. -/
def bits (x : Float) : BitVec Format.binary64.numBits :=
  x.toModel.toBits.toBitVec

/-! ## The three fields -/

section Fields

variable (b : BitVec Format.binary64.numBits) (s : Sign) (e : BitVec 11) (m : BitVec 52)

theorem toNat_unpackMantissa : (unpackMantissa b).toNat = b.toNat % 2 ^ 52 := by
  simp [unpackMantissa]

theorem toNat_unpackExponent : (unpackExponent b).toNat = b.toNat / 2 ^ 52 % 2 ^ 11 := by
  simp [unpackExponent, Nat.shiftRight_eq_div_pow]

theorem toNat_unpackSign : (unpackSign b).toNat = b.toNat / 2 ^ 63 := by
  have hb : b.toNat < 2 ^ 64 := b.isLt
  simp only [unpackSign, BitVec.toNat_cast, BitVec.extractLsb_toNat, Nat.shiftRight_eq_div_pow]
  exact Nat.mod_eq_of_lt (by omega)

theorem toNat_packComponents : (packComponents Format.binary64 s e m).toNat =
    s.toBitVec.toNat * 2 ^ 63 + e.toNat * 2 ^ 52 + m.toNat := by
  simp only [packComponents, BitVec.toNat_append]
  rw [← Nat.shiftLeft_add_eq_or_of_lt e.isLt, ← Nat.shiftLeft_add_eq_or_of_lt m.isLt,
    Nat.shiftLeft_eq, Nat.shiftLeft_eq]
  show (s.toBitVec.toNat * 2 ^ 11 + e.toNat) * 2 ^ 52 + m.toNat = _
  omega

/-- The mantissa with its leading bit, which is not stored. -/
theorem toNat_implicit : (1#1 ++ m).toNat = m.toNat + 2 ^ 52 := by
  rw [BitVec.toNat_append, ← Nat.shiftLeft_add_eq_or_of_lt m.isLt, Nat.shiftLeft_eq]
  show 1 * 2 ^ 52 + _ = _
  omega

theorem toBitVec_ofBitVec (s : BitVec 1) : (Sign.ofBitVec s).toBitVec = s := by
  revert s; decide

theorem ofBitVec_toBitVec : Sign.ofBitVec s.toBitVec = s := by
  cases s <;> rfl

theorem unpackSign_packComponents :
    Sign.ofBitVec (unpackSign (packComponents Format.binary64 s e m)) = s := by
  have he : e.toNat < 2 ^ 11 := e.isLt
  have hm : m.toNat < 2 ^ 52 := m.isLt
  have hs : unpackSign (packComponents Format.binary64 s e m) = s.toBitVec := by
    apply BitVec.eq_of_toNat_eq
    rw [toNat_unpackSign, toNat_packComponents]
    omega
  rw [hs, ofBitVec_toBitVec]

/-- The fields of a double, put together again. -/
theorem packComponents_unpack : packComponents Format.binary64 (Sign.ofBitVec (unpackSign b))
    (unpackExponent b) (unpackMantissa b) = b := by
  have hb : b.toNat < 2 ^ 64 := b.isLt
  apply BitVec.eq_of_toNat_eq
  rw [toNat_packComponents, toBitVec_ofBitVec, toNat_unpackSign, toNat_unpackExponent,
    toNat_unpackMantissa]
  omega

end Fields

/-! ## Canonical numbers -/

/-- A mantissa and an exponent as the format keeps them: the mantissa has its 53 bits in full use,
unless the exponent is the least. -/
structure Canonical (m : Nat) (e : Int) : Prop where
  bits : m < 2 ^ 53
  least : -1074 ≤ e
  full : 2 ^ 52 ≤ m ∨ e = -1074

theorem log2_le {m : Nat} (h : m < 2 ^ 53) : m.log2 ≤ 52 := by
  by_cases hz : m = 0
  · subst hz
    decide
  · exact Nat.le_of_lt_succ ((Nat.log2_lt hz).mpr h)

section Finite

variable {s : Sign} {m : Nat} {e : Int} {hm : 0 < m}

/-- Fields of a number with 53 bits. -/
theorem unpack_normal {e : BitVec 11} {m : BitVec 52} (hzero : e ≠ 0#11) (htop : e ≠ -1#11) :
    unpack Format.binary64 (packComponents Format.binary64 s e m) =
      .finite s (m.toNat + 2 ^ 52) ((e.toNat : Int) - 1075) (Nat.succ_pos _) := by
  have hbias : Format.binary64.exponentBias = 1023 := rfl
  simp only [UnpackedFloat.unpack, unpackExponent_packComponents, unpackMantissa_packComponents,
    unpackSign_packComponents, hbias, if_neg hzero, if_neg htop, toNat_implicit]
  rfl

/-- Fields of a number with the least exponent. -/
theorem unpack_subnormal {m : BitVec 52} (hm : m ≠ 0#52) :
    unpack Format.binary64 (packComponents Format.binary64 s 0#11 m) =
      .finite s m.toNat (-1074) (Nat.pos_of_ne_zero fun h => hm (BitVec.eq_of_toNat_eq h)) := by
  have hbias : Format.binary64.exponentBias = 1023 := rfl
  have htop : (0#11 : BitVec 11) ≠ -1#11 := by decide
  simp only [UnpackedFloat.unpack, unpackExponent_packComponents, unpackMantissa_packComponents,
    unpackSign_packComponents, hbias, if_neg htop, dif_neg hm]
  rfl

theorem pack_normal (hlow : 2 ^ 52 ≤ m) (hhigh : m < 2 ^ 53) (he : -1075 ≤ e) (hmax : e ≤ 971) :
    UnpackedFloat.pack Format.binary64 (.finite s m e hm) =
      packComponents Format.binary64 s (BitVec.ofNat 11 (e + 1075).toNat) (BitVec.ofNat 52 m) := by
  have hbias : Format.binary64.exponentBias = 1023 := rfl
  have hlog : m.log2 + 1 = Format.binary64.mantissaBits := by
    have hle := log2_le hhigh
    have hge := (Nat.le_log2 (Nat.ne_of_gt hm)).mpr hlow
    show m.log2 + 1 = 53
    omega
  simp only [UnpackedFloat.pack, hbias]
  rw [if_neg (by omega), if_pos hlog]
  congr 2
  omega

theorem pack_subnormal (hhigh : m < 2 ^ 52) :
    UnpackedFloat.pack Format.binary64 (.finite s m (-1074) hm) =
      packComponents Format.binary64 s 0#11 (BitVec.ofNat 52 m) := by
  have hbias : Format.binary64.exponentBias = 1023 := rfl
  have hlog : m.log2 + 1 ≠ Format.binary64.mantissaBits := by
    have := (Nat.log2_lt (Nat.ne_of_gt hm)).mpr hhigh
    show m.log2 + 1 ≠ 53
    omega
  simp only [UnpackedFloat.pack, hbias]
  rw [if_neg (by decide), if_neg hlog]

/-- A number whose exponent is beyond the format packs as infinity. -/
theorem pack_of_large (he : 972 ≤ e) :
    UnpackedFloat.pack Format.binary64 (.finite s m e hm) =
      UnpackedFloat.pack Format.binary64 (.infinity s) := by
  have hbias : Format.binary64.exponentBias = 1023 := rfl
  simp only [UnpackedFloat.pack, hbias]
  rw [if_pos (by omega)]

/-- **A canonical number unpacks to itself**, as long as its exponent fits. -/
theorem unpack_pack_finite (hc : Canonical m e) (he : e ≤ 971) :
    (Float.Model.pack (.finite s m e hm)).unpack = .finite s m e hm := by
  show unpack Format.binary64 (UnpackedFloat.pack Format.binary64 (.finite s m e hm)) = _
  have hbits := hc.bits
  have hleast := hc.least
  by_cases hlow : 2 ^ 52 ≤ m
  · have hexp : (BitVec.ofNat 11 (e + 1075).toNat).toNat = (e + 1075).toNat := by
      rw [BitVec.toNat_ofNat, Nat.mod_eq_of_lt (by omega)]
    have hmant : (BitVec.ofNat 52 m).toNat = m - 2 ^ 52 := by
      rw [BitVec.toNat_ofNat]
      omega
    rw [pack_normal hlow hbits (by omega) he, unpack_normal]
    · simp only [finite.injEq, hexp, hmant, true_and]
      omega
    all_goals
      refine fun h => absurd (congrArg BitVec.toNat h) ?_
      rw [hexp]
      simp only [BitVec.reduceNeg, BitVec.reduceToNat]
      omega
  · obtain rfl : e = -1074 := hc.full.resolve_left hlow
    have hmant : (BitVec.ofNat 52 m).toNat = m := by
      rw [BitVec.toNat_ofNat, Nat.mod_eq_of_lt (by omega)]
    rw [pack_subnormal (by omega), unpack_subnormal]
    · simp only [hmant]
    · refine fun h => absurd (congrArg BitVec.toNat h) ?_
      rw [hmant]
      exact Nat.ne_of_gt hm

/-- The fields that a finite number was unpacked from. -/
theorem unpack_fields {b : BitVec Format.binary64.numBits}
    (h : unpack Format.binary64 b = .finite s m e hm) :
    s = Sign.ofBitVec (unpackSign b) ∧
      ((unpackExponent b).toNat = 0 ∧ m = (unpackMantissa b).toNat ∧ e = -1074 ∨
        (unpackExponent b).toNat ≠ 0 ∧ (unpackExponent b).toNat < 2047 ∧
          m = (unpackMantissa b).toNat + 2 ^ 52 ∧ e = ((unpackExponent b).toNat : Int) - 1075) := by
  have hbias : Format.binary64.exponentBias = 1023 := rfl
  have hexp : (unpackExponent b).toNat < 2 ^ 11 := (unpackExponent b).isLt
  simp only [UnpackedFloat.unpack, hbias] at h
  split at h
  · split at h <;> cases h
  · next htop =>
    have hne : (unpackExponent b).toNat ≠ 2047 := fun hn => htop (BitVec.eq_of_toNat_eq hn)
    split at h
    · next hzero =>
      have hz : (unpackExponent b).toNat = 0 := by rw [hzero]; rfl
      split at h
      · cases h
      · cases h
        exact ⟨rfl, .inl ⟨hz, rfl, by omega⟩⟩
    · next hzero =>
      have hnz : (unpackExponent b).toNat ≠ 0 := fun hn => hzero (BitVec.eq_of_toNat_eq hn)
      cases h
      exact ⟨rfl, .inr ⟨hnz, by omega, toNat_implicit _, by omega⟩⟩

/-- **A finite number that was unpacked is canonical**, and its exponent fits. -/
theorem canonical_of_unpack {b : BitVec Format.binary64.numBits}
    (h : unpack Format.binary64 b = .finite s m e hm) : Canonical m e ∧ e ≤ 971 := by
  have hmant : (unpackMantissa b).toNat < 2 ^ 52 := (unpackMantissa b).isLt
  obtain ⟨-, ⟨hz, rfl, rfl⟩ | ⟨hnz, htop, rfl, rfl⟩⟩ := unpack_fields h
  · exact ⟨⟨by omega, by omega, .inr rfl⟩, by omega⟩
  · exact ⟨⟨by omega, by omega, .inl (by omega)⟩, by omega⟩

end Finite

/-! ## Packing undoes unpacking -/

theorem pack_unpack_components {s : Sign} {e : BitVec 11} {m : BitVec 52}
    (h : Format.binary64.Valid (packComponents Format.binary64 s e m)) :
    UnpackedFloat.pack Format.binary64
      (unpack Format.binary64 (packComponents Format.binary64 s e m)) =
        packComponents Format.binary64 s e m := by
  have he : e.toNat < 2 ^ 11 := e.isLt
  have hm : m.toNat < 2 ^ 52 := m.isLt
  by_cases htop : e = -1#11
  · subst htop
    by_cases hmz : m = 0#52
    · subst hmz
      cases s <;> rfl
    · have hnan : packComponents Format.binary64 s (-1#11) m = packedNaN Format.binary64 :=
        h.eq_packedNaN unpackExponent_packComponents (by rwa [unpackMantissa_packComponents])
      rw [hnan]
      rfl
  · by_cases hzero : e = 0#11
    · subst hzero
      by_cases hmz : m = 0#52
      · subst hmz
        cases s <;> rfl
      · rw [unpack_subnormal hmz, pack_subnormal hm, BitVec.ofNat_toNat, BitVec.setWidth_eq]
    · have hne : e.toNat ≠ 2047 := fun hn => htop (BitVec.eq_of_toNat_eq hn)
      have hexp : BitVec.ofNat 11 ((e.toNat : Int) - 1075 + 1075).toNat = e := by
        rw [Int.sub_add_cancel, Int.toNat_natCast, BitVec.ofNat_toNat, BitVec.setWidth_eq]
      have hmant : BitVec.ofNat 52 (m.toNat + 2 ^ 52) = m := by
        apply BitVec.eq_of_toNat_eq
        rw [BitVec.toNat_ofNat]
        omega
      rw [unpack_normal hzero htop, pack_normal (by omega) (by omega) (by omega) (by omega), hexp,
        hmant]

/-- **A double is what its parts pack to.** -/
theorem pack_unpack (x : Float) : Float.ofModel (Float.Model.pack x.toModel.unpack) = x := by
  obtain ⟨⟨⟨b⟩, valid⟩⟩ := x
  simp only [Float.Model.pack, Float.Model.unpack]
  rw [← packComponents_unpack b] at valid
  have h := pack_unpack_components valid
  rw [packComponents_unpack] at h
  simp only [h]

theorem eq_of_unpack {x y : Float} (h : x.toModel.unpack = y.toModel.unpack) : x = y := by
  rw [← pack_unpack x, h, pack_unpack]

/-! ## Sign and magnitude -/

variable {s : Sign} {m : Nat} {e : Int} {hm : 0 < m} {x : Float}

/-- The sign bit. -/
theorem isNegative_iff : isNegative x = true ↔ Sign.ofBitVec (unpackSign (bits x)) = .negative := by
  have hsign : isNegative x = ((unpackSign (bits x)).toNat == 1) := by
    rw [toNat_unpackSign]
    rfl
  rw [hsign]
  generalize unpackSign (bits x) = v
  have hcases : v = 0#1 ∨ v = 1#1 := by revert v; decide
  obtain rfl | rfl := hcases <;> simp [Sign.ofBitVec]

theorem isNegative_of_unpack (h : x.toModel.unpack = .finite s m e hm) :
    isNegative x = true ↔ s = .negative := by
  rw [(unpack_fields h).1]
  exact isNegative_iff

/-- **The parts of a finite double** are those it unpacks to. -/
theorem parts_eq (h : x.toModel.unpack = .finite s m e hm) : parts x = ⟨m, e⟩ := by
  have hparts : parts x =
      if (unpackExponent (bits x)).toNat = 0 then ⟨(unpackMantissa (bits x)).toNat, -1074⟩
      else
        ⟨(unpackMantissa (bits x)).toNat + 2 ^ 52,
          ((unpackExponent (bits x)).toNat : Int) - 1075⟩ := by
    rw [toNat_unpackExponent, toNat_unpackMantissa]
    rfl
  rw [hparts]
  change unpack Format.binary64 (bits x) = _ at h
  obtain ⟨-, ⟨hz, rfl, rfl⟩ | ⟨hnz, -, rfl, rfl⟩⟩ := unpack_fields h
  · rw [if_pos hz]
  · rw [if_neg hnz]

theorem unpack_neg (h : x.toModel.unpack = .finite s m e hm) :
    (-x).toModel.unpack = .finite (-s) m e hm := by
  show (Float.Model.pack x.toModel.unpack.neg).unpack = _
  rw [h]
  exact unpack_pack_finite (canonical_of_unpack h).1 (canonical_of_unpack h).2

theorem unpack_abs (h : x.toModel.unpack = .finite s m e hm) :
    x.abs.toModel.unpack = .finite .positive m e hm := by
  show (Float.Model.pack x.toModel.unpack.abs).unpack = _
  rw [h]
  exact unpack_pack_finite (canonical_of_unpack h).1 (canonical_of_unpack h).2

/-- **A finite double is its magnitude with its sign.** -/
theorem signed_abs (h : x.toModel.unpack = .finite s m e hm) :
    (if isNegative x then -x.abs else x.abs) = x := by
  have habs := unpack_abs h
  cases s with
  | positive =>
    rw [if_neg (by simp [isNegative_of_unpack h])]
    exact eq_of_unpack (habs.trans h.symm)
  | negative =>
    rw [if_pos ((isNegative_of_unpack h).mpr rfl)]
    exact eq_of_unpack ((unpack_neg habs).trans h.symm)

end Dunning.Decimal
