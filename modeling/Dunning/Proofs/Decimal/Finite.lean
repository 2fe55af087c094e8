import Mathlib
import Dunning.Decimal.Reading
import Dunning.Proofs.Decimal.Packing

/-!
# Proofs/Decimal/Finite — which doubles are finite

A double is finite, infinite or NaN, and there is one NaN (`eq_nan_of_isNaN`).
-/

namespace Dunning.Decimal

open Float.Model Float.Model.UnpackedFloat

/-! ## The three kinds of double -/

theorem isFinite_eq (x : Float) : x.isFinite = (!x.isNaN && !x.isInf) := by
  simp only [Float.isFinite, Float.isNaN, Float.isInf, Float.Model.isFinite, Float.Model.isNaN,
    Float.Model.isInf]
  cases x.toModel.unpack <;> rfl

theorem isNaN_nan : nan.isNaN = true := by decide

/-- What takes apart as NaN has the bits of NaN. -/
theorem bits_of_isNaN {x : Float} (h : x.isNaN = true) :
    x.toModel.toBits.toBitVec = packedNaN Format.binary64 := by
  have hne : @unpackExponent Format.binary64 x.toModel.toBits.toBitVec = (-1#_) ∧
      @unpackMantissa Format.binary64 x.toModel.toBits.toBitVec ≠ 0#_ := by
    simp only [Float.isNaN, Float.Model.isNaN, Float.Model.unpack, UnpackedFloat.unpack] at h
    repeat' split at h
    all_goals first
      | exact ⟨‹_›, ‹_›⟩
      | simp [UnpackedFloat.isNaN] at h
  exact x.toModel.valid.eq_packedNaN hne.1 hne.2

/-- **There is one NaN.** -/
theorem eq_nan_of_isNaN {x : Float} (h : x.isNaN = true) : x = nan := by
  obtain ⟨⟨⟨bits⟩, valid⟩⟩ := x
  have hx : bits = packedNaN Format.binary64 := bits_of_isNaN h
  subst hx
  rfl

theorem not_isInf_nan : nan.isInf = false := by decide

theorem not_isFinite_nan : nan.isFinite = false := by decide

/-- A double that is not finite is infinite or NaN. -/
theorem eq_nan_or_isInf {x : Float} (h : x.isFinite = false) : x = nan ∨ x.isInf = true := by
  rw [isFinite_eq] at h
  cases hx : x.isNaN with
  | true => exact .inl (eq_nan_of_isNaN hx)
  | false =>
    rw [hx, Bool.not_false, Bool.true_and, Bool.not_eq_false'] at h
    exact .inr h

/-- A finite double is zero, with or without a sign, or a number other than zero. -/
theorem zero_or_unpack {x : Float} (h : x.isFinite = true) :
    x = 0 ∨ x = -0.0 ∨ ∃ s m e hm, x.toModel.unpack = .finite s m e hm := by
  change x.toModel.unpack.isFinite = true at h
  have hx := pack_unpack x
  cases hu : x.toModel.unpack with
  | infinity _ | notANumber => rw [hu] at h; cases h
  | zero s =>
    rw [hu] at hx
    subst hx
    cases s with
    | positive => exact .inl rfl
    | negative => exact .inr (.inl rfl)
  | finite s m e hm => exact .inr (.inr ⟨s, m, e, hm, rfl⟩)

theorem not_isInf_of_isFinite {x : Float} (h : x.isFinite = true) : x.isInf = false := by
  rw [isFinite_eq] at h
  simp only [Bool.and_eq_true, Bool.not_eq_true'] at h
  exact h.2

theorem not_isNaN_of_isInf {x : Float} (h : x.isInf = true) : x.isNaN = false := by
  simp only [Float.isNaN, Float.isInf, Float.Model.isNaN, Float.Model.isInf] at h ⊢
  cases hx : x.toModel.unpack with
  | notANumber => rw [hx] at h; cases h
  | infinity _ | zero _ | finite _ _ _ _ => rfl

theorem isFinite_of_unpack {x : Float} {s : UnpackedFloat.Sign} {m : Nat} {e : Int} {hm : 0 < m}
    (hu : x.toModel.unpack = .finite s m e hm) : x.isFinite = true := by
  show x.toModel.unpack.isFinite = true
  rw [hu]
  rfl

theorem isFinite_neg {x : Float} (h : x.isFinite = true) : (-x).isFinite = true := by
  change x.toModel.unpack.isFinite = true at h
  show (Float.Model.pack x.toModel.unpack.neg).unpack.isFinite = true
  cases hu : x.toModel.unpack with
  | infinity _ | notANumber => rw [hu] at h; cases h
  | zero s => cases s <;> rfl
  | finite s m e hm =>
    have hfinite : (-x).isFinite = true := isFinite_of_unpack (unpack_neg hu)
    rw [← hu]
    exact hfinite

end Dunning.Decimal
