import Dunning.Proofs.Decimal.Finite

/-!
# Proofs/Decimal/Order — how doubles compare

Two doubles are less, equal or greater, or one of them is NaN.  Which one it is decides all the
comparisons (`beq_iff`, `lt_iff`, `le_iff`), and seen from the other side it is the same but swapped
(`compare_swap`).  Doubles other than NaN lie on a line (`compare?_eq_height`), so their order is
transitive (`float_le_trans`, `float_lt_of_lt_of_le`).
-/

namespace Dunning.Decimal

open Float.Model Float.Model.UnpackedFloat

/-- How one double compares with another; not at all if either is NaN. -/
def compare? (x y : Float) : Option Ordering :=
  x.toModel.unpack.compare y.toModel.unpack

variable {x y : Float}

theorem beq_iff : (x == y) = true ↔ compare? x y = some .eq := by
  show (compare? x y == some .eq) = true ↔ _
  rw [beq_iff_eq]

theorem lt_iff : x < y ↔ compare? x y = some .lt := by
  show decide ((compare? x y == some .lt) = true) = true ↔ _
  rw [decide_eq_true_iff, beq_iff_eq]

theorem le_iff : x ≤ y ↔ compare? x y = some .lt ∨ compare? x y = some .eq := by
  show decide ((compare? x y).any (·.isLE) = true) = true ↔ _
  rw [decide_eq_true_iff]
  rcases compare? x y with _ | _ | _ | _ <;> simp

theorem unpacked_compare_swap (u v : UnpackedFloat) :
    (u.compare v).map Ordering.swap = v.compare u := by
  have hpair : ∀ (m n : Nat) (e k : Int), ((compare e k).then (compare m n)).swap =
      (compare k e).then (compare n m) := by
    intro m n e k
    rw [Ordering.swap_then, Std.OrientedOrd.eq_swap (a := k), Std.OrientedOrd.eq_swap (a := n)]
  rcases u with (_ | _) | _ | (_ | _) | ⟨_ | _, m, e, _⟩ <;>
    rcases v with (_ | _) | _ | (_ | _) | ⟨_ | _, n, k, _⟩ <;>
    first
      | rfl
      | simp only [UnpackedFloat.compare, Option.map_some, hpair]

theorem compare_swap (x y : Float) : (compare? x y).map Ordering.swap = compare? y x :=
  unpacked_compare_swap _ _

theorem gt_iff : x > y ↔ compare? x y = some .gt := by
  rw [gt_iff_lt, lt_iff, ← compare_swap]
  rcases compare? x y with _ | _ | _ | _ <;> simp

theorem ge_iff : x ≥ y ↔ compare? x y = some .gt ∨ compare? x y = some .eq := by
  rw [ge_iff_le, le_iff, ← compare_swap]
  rcases compare? x y with _ | _ | _ | _ <;> simp

theorem compare_eq_none_iff : compare? x y = none ↔ x.isNaN = true ∨ y.isNaN = true := by
  simp only [compare?, Float.isNaN, Float.Model.isNaN]
  rcases x.toModel.unpack with (_ | _) | _ | (_ | _) | ⟨_ | _, _, _, _⟩ <;>
    rcases y.toModel.unpack with (_ | _) | _ | (_ | _) | ⟨_ | _, _, _, _⟩ <;>
    simp [UnpackedFloat.compare, UnpackedFloat.isNaN]

/-- Where neither is NaN, one is at most the other or greater. -/
theorem ge_iff_not_lt (hx : x.isNaN = false) (hy : y.isNaN = false) : x ≥ y ↔ ¬ x < y := by
  have hsome : compare? x y ≠ none := by
    rw [ne_eq, compare_eq_none_iff, hx, hy]
    simp
  rw [ge_iff, lt_iff]
  rcases h : compare? x y with _ | _ | _ | _
  · exact absurd h hsome
  all_goals simp

theorem le_iff_not_gt (hx : x.isNaN = false) (hy : y.isNaN = false) : x ≤ y ↔ ¬ x > y :=
  ge_iff_not_lt hy hx

/-- What is at most or at least another is no NaN, and neither is the other. -/
theorem not_isNaN_of_le (h : x ≤ y) : x.isNaN = false ∧ y.isNaN = false := by
  have hsome : compare? x y ≠ none := by
    rcases le_iff.mp h with h | h <;> simp [h]
  rw [ne_eq, compare_eq_none_iff, not_or] at hsome
  simpa using hsome

theorem not_le_nan (x : Float) : ¬ x ≤ nan := fun h =>
  Bool.false_ne_true ((not_isNaN_of_le h).2.symm.trans isNaN_nan)

/-! ## On a line -/

/-- Where a double other than NaN lies: by its kind and sign first, then by its exponent, then by
its mantissa, and these two the other way round below zero. -/
def height : UnpackedFloat → ℤ ×ₗ ℤ ×ₗ ℤ
  | .infinity .negative => toLex (-2, toLex (0, 0))
  | .finite .negative m e _ => toLex (-1, toLex (-e, -m))
  | .zero _ | .notANumber => toLex (0, toLex (0, 0))
  | .finite .positive m e _ => toLex (1, toLex (e, m))
  | .infinity .positive => toLex (2, toLex (0, 0))

theorem compare_toLex {α β : Type} [LinearOrder α] [LinearOrder β] (a c : α) (b d : β) :
    compare (toLex (a, b)) (toLex (c, d)) = (compare a c).then (compare b d) := by
  rw [Prod.Lex.compare_def]
  rfl

theorem compare_neg_neg (a b : ℤ) : compare (-a) (-b) = compare b a := by
  rw [← cmp_eq_compare, ← cmp_eq_compare]
  exact StrictAnti.cmp_map_eq (fun _ _ => neg_lt_neg) a b

theorem compare_natCast (m n : ℕ) : compare (m : ℤ) n = compare m n := by
  rw [← cmp_eq_compare, ← cmp_eq_compare]
  exact StrictMono.cmp_map_eq (f := Nat.cast) (fun _ _ => Int.ofNat_lt.mpr) m n

theorem unpacked_compare_eq {u v : UnpackedFloat} (hu : u.isNaN = false) (hv : v.isNaN = false) :
    u.compare v = some (compare (height u) (height v)) := by
  rcases u with (_ | _) | _ | (_ | _) | ⟨_ | _, m, e, _⟩ <;>
    rcases v with (_ | _) | _ | (_ | _) | ⟨_ | _, n, k, _⟩
  -- The two of one sign are told apart by exponent and mantissa, all others by kind and sign.
  case finite.negative.finite.negative =>
    simp only [UnpackedFloat.compare, height, compare_toLex, compare_neg_neg, compare_natCast,
      Ordering.swap_then, Int.compare_swap, Nat.compare_swap]
    rfl
  case finite.positive.finite.positive =>
    simp only [UnpackedFloat.compare, height, compare_toLex, compare_natCast]
    rfl
  all_goals first
    | contradiction
    | (simp only [UnpackedFloat.compare, height, compare_toLex]; rfl)

theorem compare?_eq_height (hx : x.isNaN = false) (hy : y.isNaN = false) :
    compare? x y = some (compare (height x.toModel.unpack) (height y.toModel.unpack)) :=
  unpacked_compare_eq hx hy

theorem lt_iff_height (hx : x.isNaN = false) (hy : y.isNaN = false) :
    x < y ↔ height x.toModel.unpack < height y.toModel.unpack := by
  rw [lt_iff, compare?_eq_height hx hy, Option.some.injEq, compare_lt_iff_lt]

theorem le_iff_height (hx : x.isNaN = false) (hy : y.isNaN = false) :
    x ≤ y ↔ height x.toModel.unpack ≤ height y.toModel.unpack := by
  rw [le_iff, compare?_eq_height hx hy, Option.some.injEq, Option.some.injEq, compare_lt_iff_lt,
    compare_eq_iff_eq, le_iff_lt_or_eq]

theorem not_isNaN_of_lt (h : x < y) : x.isNaN = false ∧ y.isNaN = false :=
  not_isNaN_of_le (le_iff.mpr (.inl (lt_iff.mp h)))

theorem float_le_trans {z : Float} (h : x ≤ y) (h' : y ≤ z) : x ≤ z := by
  obtain ⟨hx, hy⟩ := not_isNaN_of_le h
  obtain ⟨-, hz⟩ := not_isNaN_of_le h'
  rw [le_iff_height hx hy] at h
  rw [le_iff_height hy hz] at h'
  rw [le_iff_height hx hz]
  exact h.trans h'

theorem float_lt_of_lt_of_le {z : Float} (h : x < y) (h' : y ≤ z) : x < z := by
  obtain ⟨hx, hy⟩ := not_isNaN_of_lt h
  obtain ⟨-, hz⟩ := not_isNaN_of_le h'
  rw [lt_iff_height hx hy] at h
  rw [le_iff_height hy hz] at h'
  rw [lt_iff_height hx hz]
  exact h.trans_le h'

end Dunning.Decimal
