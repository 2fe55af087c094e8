import Mathlib
import Dunning.Proofs.Decimal.Finite

/-!
# Proofs/Decimal/Rounding — what rounding depends on

Arithmetic on doubles hands its exact result to one rounding routine as a mantissa, an exponent and
a note on what lies below the last place.  `located x` is that mantissa and that note for a number
`x` in units of the last place, and shifting it is halving the number:

  `located x >>> k = located (x / 2 ^ k)`            (`shiftRight_located`)

and the first shift of the routine always ends on `grid q`, the last place kept of `q`
(`shift_to_grid`).  Hence the result is a function of the sign and the value alone, `nearest s q`
(`roundWithAccuracy_eq_nearest`); products, quotients and conversions all come out as `nearest` of
what they compute, and a canonical number is its own nearest.
-/

namespace Dunning.Decimal

open Float.Model Float.Model.UnpackedFloat

/-! ## Where a number lies between two mantissas -/

/-- The mantissa of a number, with the bits that say where in the last place the number lies. -/
def located (x : ℚ) : ExtendedMantissa where
  mantissa := ⌊x⌋₊
  roundBit := decide (1 / 2 ≤ Int.fract x)
  stickyBit := decide (Int.fract x ≠ 0 ∧ Int.fract x ≠ 1 / 2)

theorem located_add {m : Nat} {r : ℚ} (hr : 0 ≤ r) (hr' : r < 1) :
    located (m + r) = ⟨m, decide (1 / 2 ≤ r), decide (r ≠ 0 ∧ r ≠ 1 / 2)⟩ := by
  have hfract : Int.fract ((m : ℚ) + r) = r := by
    rw [Int.fract_natCast_add, Int.fract_eq_self.mpr ⟨hr, hr'⟩]
  have hfloor : ⌊(m : ℚ) + r⌋₊ = m := by
    rw [Nat.floor_eq_iff (by positivity)]
    constructor <;> linarith
  simp only [located, hfract, hfloor]

theorem located_natCast (m : Nat) :
    located m = ExtendedMantissa.ofMantissaAndAccuracy m .exact := by
  have h := located_add (m := m) (le_refl (0 : ℚ)) one_pos
  rw [add_zero] at h
  rw [h]
  norm_num [ExtendedMantissa.ofMantissaAndAccuracy]

/-- A nonnegative number, split at its last place. -/
theorem exists_located {x : ℚ} (hx : 0 ≤ x) : ∃ (m : Nat) (r : ℚ), x = m + r ∧ 0 ≤ r ∧ r < 1 := by
  refine ⟨⌊x⌋₊, x - ⌊x⌋₊, by ring, ?_, ?_⟩
  · linarith [Nat.floor_le hx]
  · linarith [Nat.lt_floor_add_one x]

/-- Bits that are lost leave their mark on the last of those that stay. -/
theorem sticky_iff {r : ℚ} : 1 / 2 ≤ r ∨ r ≠ 0 ∧ r ≠ 1 / 2 ↔ r ≠ 0 := by
  constructor
  · rintro (h | h)
    · linarith
    · exact h.1
  · intro h
    by_cases hr : r = 1 / 2
    · exact .inl hr.ge
    · exact .inr ⟨h, hr⟩

/-- **Half a number** has its mantissa shifted by one place. -/
theorem shiftRightOne_located {x : ℚ} (hx : 0 ≤ x) :
    (located x).shiftRightOne = located (x / 2) := by
  obtain ⟨m, r, rfl, hr, hr'⟩ := exists_located hx
  have hdiv : (m : ℚ) = 2 * (m / 2 : Nat) + (m % 2 : Nat) := by
    exact_mod_cast (Nat.div_add_mod m 2).symm
  rw [located_add hr hr']
  obtain hpar | hpar : m % 2 = 0 ∨ m % 2 = 1 := by omega
  · have hhalf : ((m : ℚ) + r) / 2 = (m / 2 : Nat) + r / 2 := by
      rw [hdiv, hpar]; push_cast; ring
    have hround : ¬ 1 / 2 ≤ r / 2 := by linarith
    have hsticky : 1 / 2 ≤ r ∨ r ≠ 0 ∧ r ≠ 1 / 2 ↔ r / 2 ≠ 0 ∧ r / 2 ≠ 1 / 2 := by
      rw [sticky_iff]
      constructor
      · exact fun h => ⟨by simpa using h, by linarith⟩
      · exact fun h => by simpa using h.1
    rw [hhalf, located_add (by linarith) (by linarith)]
    simp only [ExtendedMantissa.shiftRightOne, ← Bool.decide_or, hpar, hround, hsticky]
    rfl
  · have hhalf : ((m : ℚ) + r) / 2 = (m / 2 : Nat) + (1 + r) / 2 := by
      rw [hdiv, hpar]; push_cast; ring
    have hround : 1 / 2 ≤ (1 + r) / 2 := by linarith
    have hsticky : 1 / 2 ≤ r ∨ r ≠ 0 ∧ r ≠ 1 / 2 ↔ (1 + r) / 2 ≠ 0 ∧ (1 + r) / 2 ≠ 1 / 2 := by
      rw [sticky_iff]
      constructor
      · exact fun h => ⟨by linarith, fun hr => h (by linarith)⟩
      · exact fun h hr => h.2 (by rw [hr]; ring)
    rw [hhalf, located_add (by linarith) (by linarith)]
    simp only [ExtendedMantissa.shiftRightOne, ← Bool.decide_or, hpar, hround, hsticky]
    rfl

/-- A number divided by a power of two has its mantissa shifted by as many places. -/
theorem shiftRight_located {x : ℚ} (hx : 0 ≤ x) (k : Nat) :
    located x >>> k = located (x / 2 ^ k) := by
  induction k with
  | zero =>
    rw [pow_zero, div_one]
    rfl
  | succ k ih =>
    calc located x >>> (k + 1) = (located x >>> k).shiftRightOne := rfl
      _ = located (x / 2 ^ k / 2) := by rw [ih, shiftRightOne_located (by positivity)]
      _ = located (x / 2 ^ (k + 1)) := by rw [pow_succ, div_div]

/-- A quotient, from its whole part and what is left over. -/
theorem located_div (n : Nat) {d : Nat} (hd : 0 < d) : located (n / d) =
    ExtendedMantissa.ofMantissaAndAccuracy (n / d) (accuracyOfFraction (n % d) d) := by
  have hd' : (0 : ℚ) < d := by exact_mod_cast hd
  have hlt : ((n % d : Nat) : ℚ) < d := by exact_mod_cast Nat.mod_lt n hd
  have hsplit : (n : ℚ) / d = (n / d : Nat) + (n % d : Nat) / d := by
    have hn : (n : ℚ) = d * (n / d : Nat) + (n % d : Nat) := by
      exact_mod_cast (Nat.div_add_mod n d).symm
    rw [hn, add_div, mul_div_cancel_left₀ _ hd'.ne']
  rw [hsplit, located_add (by positivity) (by rwa [div_lt_one hd'])]
  have hround : 1 / 2 ≤ ((n % d : Nat) : ℚ) / d ↔ d ≤ 2 * (n % d) := by
    rw [le_div_iff₀ hd', ← @Nat.cast_le ℚ]
    push_cast
    constructor <;> intro h <;> linarith
  have hexact : ((n % d : Nat) : ℚ) / d ≠ 0 ↔ n % d ≠ 0 := by
    rw [ne_eq, div_eq_zero_iff, or_iff_left hd'.ne', Nat.cast_eq_zero]
  have heven : ((n % d : Nat) : ℚ) / d ≠ 1 / 2 ↔ 2 * (n % d) ≠ d := by
    rw [ne_eq, ne_eq, div_eq_iff hd'.ne', ← @Nat.cast_inj ℚ]
    push_cast
    constructor <;> intro h <;> contrapose! h <;> linarith
  simp only [hround, hexact, heven, accuracyOfFraction]
  split
  · next hz => simp [hz, ExtendedMantissa.ofMantissaAndAccuracy, hd.ne']
  · next hnz =>
    obtain hlt | heq | hgt := Nat.lt_trichotomy (2 * (n % d)) d
    · rw [Nat.compare_eq_lt.mpr hlt]
      simp [ExtendedMantissa.ofMantissaAndAccuracy, hnz, hlt, hlt.ne]
    · rw [Nat.compare_eq_eq.mpr heq]
      simp [ExtendedMantissa.ofMantissaAndAccuracy, heq]
    · rw [Nat.compare_eq_gt.mpr hgt]
      simp [ExtendedMantissa.ofMantissaAndAccuracy, hnz, hgt.le, hgt.ne']

/-- Rounding moves a mantissa up by one at most. -/
theorem roundedMantissa_bounds (em : ExtendedMantissa) :
    em.mantissa ≤ em.roundedMantissa ∧ em.roundedMantissa ≤ em.mantissa + 1 := by
  rcases em with ⟨m, r, s⟩
  cases r <;> cases s <;>
    simp only [ExtendedMantissa.roundedMantissa, ExtendedMantissa.accuracy,
      Accuracy.roundToNearestEven] <;> omega

/-! ## The nearest number of the format -/

/-- The exponent of the last place that the format keeps of a number. -/
def grid (q : ℚ) : Int :=
  max (Int.log 2 q - 52) (-1074)

/-- The number of the format nearest to a positive one, and the even one of two.  A mantissa that
rounds up to 54 bits moves to the next exponent. -/
def nearest (s : Sign) (q : ℚ) : UnpackedFloat :=
  let m := (located (q / 2 ^ grid q)).roundedMantissa
  if h : m = 0 then .zero s
  else if m < 2 ^ 53 then .finite s m (grid q) (Nat.pos_of_ne_zero h)
  else .finite s (2 ^ 52) (grid q + 1) (Nat.two_pow_pos 52)

/-- A power of two adds its exponent to the logarithm. -/
theorem log_mul_zpow {x : ℚ} (hx : 0 < x) (e : Int) : Int.log 2 (x * 2 ^ e) = Int.log 2 x + e := by
  have hlow := Int.zpow_log_le_self (b := 2) one_lt_two hx
  have hhigh := Int.lt_zpow_succ_log_self (b := 2) one_lt_two x
  have he : (0 : ℚ) < 2 ^ e := by positivity
  apply le_antisymm
  · rw [← Int.lt_add_one_iff, ← Int.lt_zpow_iff_log_lt one_lt_two (by positivity)]
    calc x * 2 ^ e < 2 ^ (Int.log 2 x + 1) * 2 ^ e := mul_lt_mul_of_pos_right hhigh he
      _ = ((2 : Nat) : ℚ) ^ (Int.log 2 x + e + 1) := by
        rw [← zpow_add₀ two_ne_zero, Nat.cast_ofNat]
        congr 1
        ring
  · rw [← Int.zpow_le_iff_le_log one_lt_two (by positivity)]
    calc ((2 : Nat) : ℚ) ^ (Int.log 2 x + e) = 2 ^ Int.log 2 x * 2 ^ e := by
          rw [← zpow_add₀ two_ne_zero, Nat.cast_ofNat]
      _ ≤ x * 2 ^ e := mul_le_mul_of_nonneg_right hlow he.le

section Rounding

variable {s : Sign} {m : Nat} {e : Int} {q : ℚ} {acc : Accuracy}

theorem targetExponent_eq : Format.binary64.targetExponent (totalExponent m e) =
    max ((m.log2 : Int) + e - 52) (-1074) := by
  have hbits : (Format.binary64.mantissaBits : Int) = 53 := rfl
  have hmin : Format.binary64.minExponent = -1074 := rfl
  simp only [Format.targetExponent, totalExponent, hbits, hmin]
  omega

/-- A mantissa of 53 bits stays where it is. -/
theorem shift_of_fits (hm : m < 2 ^ 53) (he : -1074 ≤ e) :
    shiftToTargetExponent Format.binary64 m e .exact = (⟨m, false, false⟩, e) := by
  have hlog := log2_le hm
  have hshift : (max ((m.log2 : Int) + e - 52) (-1074) - e).toNat = 0 := by omega
  simp only [shiftToTargetExponent, shiftToExponent, targetExponent_eq, hshift]
  exact Prod.ext rfl (add_zero e)

/-- A mantissa that was rounded up to 54 bits moves by one place. -/
theorem shift_of_carry (he : -1074 ≤ e) :
    shiftToTargetExponent Format.binary64 (2 ^ 53) e .exact = (⟨2 ^ 52, false, false⟩, e + 1) := by
  have hlog : (2 ^ 53).log2 = 53 := Nat.log2_two_pow
  have hshift : (max (((2 ^ 53).log2 : Int) + e - 52) (-1074) - e).toNat = 1 := by omega
  simp only [shiftToTargetExponent, shiftToExponent, targetExponent_eq, hshift]
  rfl

theorem grid_ge (q : ℚ) : -1074 ≤ grid q := le_max_right _ _

/-- On its grid a number has at most 53 bits. -/
theorem lt_of_grid (q : ℚ) : q / 2 ^ grid q < 2 ^ 53 := by
  have hlog := Int.lt_zpow_succ_log_self (b := 2) one_lt_two q
  have hgrid : Int.log 2 q + 1 ≤ 53 + grid q := by
    have : Int.log 2 q - 52 ≤ grid q := le_max_left _ _
    omega
  rw [div_lt_iff₀ (by positivity)]
  calc q < 2 ^ (Int.log 2 q + 1) := hlog
    _ ≤ 2 ^ (53 + grid q) := zpow_le_zpow_right₀ one_le_two hgrid
    _ = 2 ^ 53 * 2 ^ grid q := by rw [zpow_add₀ two_ne_zero]; rfl

/-- A number that was rounded on its grid has 53 bits, or is the least that has 54. -/
theorem roundedMantissa_le (hq : 0 ≤ q) : (located (q / 2 ^ grid q)).roundedMantissa ≤ 2 ^ 53 := by
  have hlt : (located (q / 2 ^ grid q)).mantissa < 2 ^ 53 := by
    rw [located, Nat.floor_lt (by positivity)]
    exact_mod_cast lt_of_grid q
  exact (roundedMantissa_bounds _).2.trans hlt

/-- A number that was rounded on its grid has 53 bits at least, unless the grid is the least. -/
theorem le_roundedMantissa (hq : 0 < q) (hgrid : grid q ≠ -1074) :
    2 ^ 52 ≤ (located (q / 2 ^ grid q)).roundedMantissa := by
  have hlog : Int.log 2 q = 52 + grid q := by
    rw [grid] at hgrid ⊢
    omega
  have hle : (2 : ℚ) ^ 52 ≤ q / 2 ^ grid q := by
    rw [le_div_iff₀ (by positivity)]
    calc (2 : ℚ) ^ 52 * 2 ^ grid q = 2 ^ (52 + grid q) := by rw [zpow_add₀ two_ne_zero]; rfl
      _ ≤ q := by rw [← hlog]; exact Int.zpow_log_le_self one_lt_two hq
  have hmant : 2 ^ 52 ≤ (located (q / 2 ^ grid q)).mantissa :=
    Nat.le_floor (by exact_mod_cast hle)
  exact hmant.trans (roundedMantissa_bounds _).1

/-- **The first shift ends on the grid**, whatever exponent below it the number comes with. -/
theorem shift_to_grid (hq : 0 < q) (he : e ≤ grid q)
    (h : ExtendedMantissa.ofMantissaAndAccuracy m acc = located (q / 2 ^ e)) :
    shiftToTargetExponent Format.binary64 m e acc = (located (q / 2 ^ grid q), grid q) := by
  have hpos : 0 < q / 2 ^ e := by positivity
  have hlog : Int.log 2 q = Int.log 2 (q / 2 ^ e) + e := by
    rw [← log_mul_zpow hpos, div_mul_cancel₀ _ (by positivity)]
  have hm : m = ⌊q / 2 ^ e⌋₊ := by
    have hmant := congrArg ExtendedMantissa.mantissa h
    rcases acc with _ | _ | _ | _ <;> exact hmant
  -- a mantissa of zero comes from a number too small for any grid but the least
  have htarget : max e (max ((m.log2 : Int) + e - 52) (-1074)) = grid q := by
    rw [grid] at he ⊢
    by_cases hone : 1 ≤ q / 2 ^ e
    · rw [Int.log_of_one_le_right 2 hone, ← hm, ← Nat.log2_eq_log_two] at hlog
      omega
    · have hneg : Int.log 2 (q / 2 ^ e) < 0 := by
        rw [← Int.lt_zpow_iff_log_lt one_lt_two hpos, zpow_zero]
        exact not_le.mp hone
      have hz : m = 0 := by rw [hm, Nat.floor_eq_zero]; exact not_le.mp hone
      have : m.log2 = 0 := by rw [hz]; rfl
      omega
  have hshift : e + ((max ((m.log2 : Int) + e - 52) (-1074) - e).toNat : Int) = grid q := by
    omega
  simp only [shiftToTargetExponent, shiftToExponent, targetExponent_eq, h]
  rw [hshift, shiftRight_located hpos.le, div_div, ← zpow_natCast, ← zpow_add₀ two_ne_zero, hshift]

/-- **Rounding depends on the sign and the value alone.** -/
theorem roundWithAccuracy_eq_nearest (hq : 0 < q) (he : e ≤ grid q)
    (h : ExtendedMantissa.ofMantissaAndAccuracy m acc = located (q / 2 ^ e)) :
    roundWithAccuracy Format.binary64 s m e acc = nearest s q := by
  have hle := roundedMantissa_le hq.le
  simp only [roundWithAccuracy, shift_to_grid hq he h, nearest]
  by_cases hfits : (located (q / 2 ^ grid q)).roundedMantissa < 2 ^ 53
  · simp only [shift_of_fits hfits (grid_ge q), if_pos hfits]
  · have hcarry : (located (q / 2 ^ grid q)).roundedMantissa = 2 ^ 53 := by omega
    simp only [hcarry, shift_of_carry (grid_ge q)]
    rfl

/-- **What was rounded is canonical**, and its exponent is that of the grid or the next. -/
theorem canonical_of_nearest {n : Nat} {k : Int} {hn : 0 < n} {t : Sign} (hq : 0 < q)
    (h : nearest s q = .finite t n k hn) : Canonical n k ∧ k ≤ grid q + 1 := by
  have hleast := grid_ge q
  rw [nearest] at h
  split at h
  · cases h
  split at h
  · next hfits =>
    cases h
    refine ⟨⟨hfits, hleast, ?_⟩, by omega⟩
    by_cases hgrid : grid q = -1074
    · exact .inr hgrid
    · exact .inl (le_roundedMantissa hq hgrid)
  · cases h
    exact ⟨⟨by decide, by omega, .inl le_rfl⟩, le_rfl⟩

/-! ## What the operations round -/

theorem grid_mul_zpow (hm : 0 < m) (e : Int) :
    grid (m * 2 ^ e) = max ((m.log2 : Int) + e - 52) (-1074) := by
  rw [grid, log_mul_zpow (by exact_mod_cast hm), Int.log_natCast, Nat.log2_eq_log_two]

/-- **Canonical numbers are their own nearest.** -/
theorem nearest_of_canonical {hm : 0 < m} (hc : Canonical m e) :
    nearest s (m * 2 ^ e) = .finite s m e hm := by
  have hbits := hc.bits
  have hleast := hc.least
  have hgrid : grid (m * 2 ^ e) = e := by
    rw [grid_mul_zpow hm]
    have hhigh := log2_le hbits
    obtain hfull | rfl := hc.full
    · have hlow := (Nat.le_log2 hm.ne').mpr hfull
      omega
    · omega
  have hunit : (m * 2 ^ e / 2 ^ e : ℚ) = m := mul_div_cancel_right₀ _ (by positivity)
  have hround : (located (m : ℚ)).roundedMantissa = m := by rw [located_natCast]; rfl
  simp only [nearest, hgrid, hunit, hround]
  rw [dif_neg hm.ne', if_pos hbits]

/-- A number given by a mantissa and an exponent, rounded. -/
theorem round_eq_nearest (hm : 0 < m) (s : Sign) (e : Int) :
    UnpackedFloat.round Format.binary64 s m e = nearest s (m * 2 ^ e) := by
  have hgrid := grid_mul_zpow hm e
  simp only [UnpackedFloat.round, decreaseExponent, targetExponent_eq, ← hgrid]
  refine roundWithAccuracy_eq_nearest (by positivity) (by omega) ?_
  rw [← located_natCast, Nat.shiftLeft_eq, zpow_sub₀ two_ne_zero, zpow_natCast]
  congr 1
  push_cast
  field_simp

/-- A product whose mantissa has 53 bits at least, rounded. -/
theorem mul_eq_nearest {s₁ s₂ : Sign} {m₁ m₂ : Nat} {e₁ e₂ : Int} {hm₁ : 0 < m₁} {hm₂ : 0 < m₂}
    (h : 2 ^ 52 ≤ m₁ * m₂) :
    UnpackedFloat.mul Format.binary64 (.finite s₁ m₁ e₁ hm₁) (.finite s₂ m₂ e₂ hm₂) =
      nearest (s₁ * s₂) (m₁ * 2 ^ e₁ * (m₂ * 2 ^ e₂)) := by
  have hpos : 0 < m₁ * m₂ := Nat.mul_pos hm₁ hm₂
  have hvalue : (m₁ * 2 ^ e₁ * (m₂ * 2 ^ e₂) : ℚ) = (m₁ * m₂ : Nat) * 2 ^ (e₁ + e₂) := by
    rw [zpow_add₀ two_ne_zero]
    push_cast
    ring
  have hlog : 52 ≤ (m₁ * m₂).log2 := (Nat.le_log2 hpos.ne').mpr h
  rw [hvalue]
  refine roundWithAccuracy_eq_nearest (by positivity) ?_ ?_
  · rw [grid_mul_zpow hpos]
    omega
  · rw [← located_natCast, mul_div_cancel_right₀ _ (by positivity)]

/-- A quotient has the bits that its numerator has more than its denominator, or one less. -/
theorem le_log_div {m₁ m₂ : Nat} (hm₁ : 0 < m₁) (hm₂ : 0 < m₂) :
    (m₁.log2 : Int) - m₂.log2 - 1 ≤ Int.log 2 (m₁ / m₂ : ℚ) := by
  have hlow : ((2 ^ m₁.log2 : Nat) : ℚ) ≤ m₁ := by exact_mod_cast Nat.log2_self_le hm₁.ne'
  have hhigh : (m₂ : ℚ) ≤ (2 ^ (m₂.log2 + 1) : Nat) := by
    exact_mod_cast Nat.lt_log2_self.le
  rw [← Int.zpow_le_iff_le_log one_lt_two (by positivity), le_div_iff₀ (by positivity)]
  calc ((2 : Nat) : ℚ) ^ ((m₁.log2 : Int) - m₂.log2 - 1) * m₂
      ≤ 2 ^ ((m₁.log2 : Int) - m₂.log2 - 1) * (2 ^ (m₂.log2 + 1) : Nat) :=
        mul_le_mul_of_nonneg_left hhigh (by positivity)
    _ = (2 ^ m₁.log2 : Nat) := by
        push_cast
        rw [← zpow_natCast, ← zpow_natCast, ← zpow_add₀ two_ne_zero]
        congr 1
        push_cast
        ring
    _ ≤ m₁ := hlow

/-- A quotient, rounded. -/
theorem div_eq_nearest {s₁ s₂ : Sign} {m₁ m₂ : Nat} {e₁ e₂ : Int} {hm₁ : 0 < m₁} {hm₂ : 0 < m₂} :
    UnpackedFloat.div Format.binary64 (.finite s₁ m₁ e₁ hm₁) (.finite s₂ m₂ e₂ hm₂) =
      nearest (s₁ / s₂) (m₁ * 2 ^ e₁ / (m₂ * 2 ^ e₂)) := by
  have hvalue : (m₁ * 2 ^ e₁ / (m₂ * 2 ^ e₂) : ℚ) = m₁ / m₂ * 2 ^ (e₁ - e₂) := by
    rw [zpow_sub₀ two_ne_zero]
    ring
  have hlog := le_log_div hm₁ hm₂
  simp only [UnpackedFloat.div, divCore]
  generalize htarget : min (e₁ - e₂) (Format.binary64.targetExponent
    (totalExponent m₁ e₁ - totalExponent m₂ e₂)) = t
  have ht : t = min (e₁ - e₂) (max ((m₁.log2 : Int) - m₂.log2 + (e₁ - e₂) - 53) (-1074)) := by
    have hbits : (Format.binary64.mantissaBits : Int) = 53 := rfl
    have hmin : Format.binary64.minExponent = -1074 := rfl
    rw [← htarget, Format.targetExponent, totalExponent, totalExponent, hbits, hmin]
    omega
  rw [hvalue]
  refine roundWithAccuracy_eq_nearest (by positivity) ?_ ?_
  · rw [grid, log_mul_zpow (by positivity)]
    omega
  · obtain ⟨k, hk⟩ := Int.eq_ofNat_of_zero_le (show 0 ≤ e₁ - e₂ - t by omega)
    rw [← located_div _ hm₂, Nat.shiftLeft_eq, mul_div_assoc, ← zpow_sub₀ two_ne_zero, hk,
      Int.toNat_natCast, zpow_natCast]
    congr 1
    push_cast
    ring

end Rounding

end Dunning.Decimal
