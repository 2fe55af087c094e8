import Dunning.Decimal.Layout
import Dunning.Decimal.Reading
import Dunning.Proofs.Decimal.Nearest

/-!
# Proofs/Decimal/ReadBack — what is written reads back

The digits of a double are the first that were found to read back, or else its exact expansion, and
neither changes its value when trailing zeros move into the exponent (`shortest_toFloat`).  Written
out in full they are digits with a point between them or without one, of the same value:

  `12300`   `12.3`   `0.00123`                    (`Written`, `written_inFull`)

and such a text is read digit by digit (`Written.figure`).  With the words for what is not finite
this gives `figure (write x) = x` for every double (`figure_write`).  No text with a comma shows a
number, since a comma is no digit, sign, point or mark (`figure_of_comma`).
-/

namespace Dunning.Decimal

open Float.Model Float.Model.UnpackedFloat Text

/-! ## The shortest digits -/

section Shortest

variable {x y : Float} {s : Sign} {m : Nat} {e : Int} {hm : 0 < m}

/-- A positive double is the one nearest to its value. -/
theorem ofRat_of_unpack (h : x.toModel.unpack = .finite .positive m e hm) :
    ofRat (m * 2 ^ e) = x := by
  have hnearest : nearest .positive (m * 2 ^ e) = .finite .positive m e hm :=
    nearest_of_canonical (canonical_of_unpack h).1
  rw [ofRat, hnearest, ← h, pack_unpack]

/-- A number that compares as equal to a positive one is the same. -/
theorem eq_of_compare {u : UnpackedFloat} (h : u.compare (.finite .positive m e hm) = some .eq) :
    u = .finite .positive m e hm := by
  cases u with
  | notANumber => cases h
  | infinity t => cases t <;> cases h
  | zero t => cases h
  | finite t n k hn =>
    cases t with
    | negative => cases h
    | positive =>
      have hthen : (compare k e).then (compare n m) = .eq := Option.some.inj h
      obtain ⟨hexp, hmant⟩ := Ordering.then_eq_eq.mp hthen
      rw [Int.compare_eq_eq] at hexp
      rw [Nat.compare_eq_eq] at hmant
      subst hexp hmant
      rfl

/-- A double that compares as equal to a positive one is the same. -/
theorem eq_of_beq_positive (h : x.toModel.unpack = .finite .positive m e hm)
    (hxy : (y == x) = true) : y = x := by
  have hcompare : (y.toModel.unpack.compare x.toModel.unpack == some .eq) = true := hxy
  rw [h] at hcompare
  exact eq_of_unpack ((eq_of_compare (beq_iff_eq.mp hcompare)).trans h.symm)

theorem exactly_toRat (b : Binary) : b.exactly.toRat = b.mantissa * 2 ^ b.exponent := by
  rw [Binary.exactly]
  split
  · next he =>
    have hten : (10 : ℚ) ^ b.exponent = 2 ^ b.exponent * (5 ^ b.exponent.natAbs)⁻¹ := by
      rw [← zpow_natCast, Int.ofNat_natAbs_of_nonpos (le_of_lt he), ← zpow_neg, neg_neg,
        ← mul_zpow]
      norm_num
    rw [Scientific.toRat, hten]
    push_cast [Nat.pow_eq]
    field_simp
  · next he =>
    have htwo : (2 : ℚ) ^ b.exponent = 2 ^ b.exponent.toNat := by
      rw [← zpow_natCast, Int.toNat_of_nonneg (not_lt.mp he)]
    rw [Scientific.toRat, htwo, zpow_zero]
    push_cast [Nat.pow_eq]
    ring

theorem trimZeros_toRat (d : Scientific) (fuel : Nat) : (d.trimZeros fuel).toRat = d.toRat := by
  induction fuel generalizing d with
  | zero => rfl
  | succ fuel ih =>
    rw [Scientific.trimZeros]
    split
    · next h =>
      have hdigits : (d.digits : ℚ) = (d.digits / 10 : Nat) * 10 := by
        exact_mod_cast (Nat.div_mul_cancel (Nat.dvd_of_mod_eq_zero h.2)).symm
      rw [ih, Scientific.toRat, Scientific.toRat, hdigits, zpow_add_one₀ (by norm_num)]
      ring
    · rfl

/-- **The shortest digits read back**, of every positive finite double. -/
theorem shortest_toFloat (h : x.toModel.unpack = .finite .positive m e hm) :
    (shortest x).toFloat = x := by
  rw [shortest, toFloat_eq_ofRat, trimZeros_toRat, ← toFloat_eq_ofRat]
  generalize hfound : List.findSome? _ (List.range 17) = found
  cases found with
  | none =>
    rw [Option.getD_none, toFloat_eq_ofRat, exactly_toRat, parts_eq h]
    exact ofRat_of_unpack h
  | some d =>
    obtain ⟨i, -, hi⟩ := List.exists_of_findSome?_eq_some hfound
    exact eq_of_beq_positive h (toFloat_of_onGrid? hi)

end Shortest

/-! ## Digits -/

section Digits

variable {n : Nat} {c : Char} {cs ds : List Char}

theorem isDigit_digit {d : Nat} (h : d < 10) : isDigit (digit d) = true := by
  have : ∀ d : Fin 10, isDigit (digit d.val) = true := by decide
  exact this ⟨d, h⟩

theorem isDigit_of_mem_numeral (h : c ∈ numeral n) : isDigit c = true := by
  induction n using Nat.strongRecOn with
  | ind n ih =>
    rw [numeral] at h
    split at h
    · next hlt =>
      rw [List.mem_singleton.mp h]
      exact isDigit_digit hlt
    · rw [List.mem_append, List.mem_singleton] at h
      rcases h with h | rfl
      · exact ih (n / 10) (by omega) h
      · exact isDigit_digit (Nat.mod_lt _ (by decide))

theorem numeral_ne_nil (n : Nat) : numeral n ≠ [] := by
  rw [numeral]
  split <;> simp

theorem value_append_zeros (cs : List Char) (k : Nat) :
    value (cs ++ List.replicate k '0') = value cs * 10 ^ k := by
  induction k with
  | zero => simp
  | succ k ih =>
    rw [List.replicate_succ', ← List.append_assoc, value_concat, ih, pow_succ]
    show 10 * _ + 0 = _
    ring

theorem eq_digit_of_isDigit (h : isDigit c = true) : ∃ d : Fin 10, c = digit d.val := by
  simp only [isDigit, Bool.and_eq_true, decide_eq_true_eq] at h
  refine ⟨⟨c.toNat - 48, by omega⟩, ?_⟩
  rw [digit, Nat.add_sub_cancel' h.1, Char.ofNat_toNat]

theorem not_isBlank_of_isDigit (h : isDigit c = true) : isBlank c = false := by
  obtain ⟨d, rfl⟩ := eq_digit_of_isDigit h
  revert d
  decide

theorem toLower_of_isDigit (h : isDigit c = true) : c.toLower = c := by
  obtain ⟨d, rfl⟩ := eq_digit_of_isDigit h
  revert d
  decide

/-- Digits are read up to the first character that is none. -/
theorem digitsThen_append (h : ∀ c ∈ cs, isDigit c = true) (ds : List Char)
    (hnext : ∀ c ∈ ds.head?, isDigit c = false) : digitsThen (cs ++ ds) = (cs, ds) := by
  have hstop : ds.takeWhile isDigit = [] ∧ ds.dropWhile isDigit = ds := by
    cases ds with
    | nil => exact ⟨rfl, rfl⟩
    | cons d ds => simp [hnext d rfl]
  rw [digitsThen, List.takeWhile_append_of_pos h, List.dropWhile_append_of_pos h, hstop.1, hstop.2,
    List.append_nil]

end Digits

/-! ## Numbers written out in full -/

/-- Texts of a number: digits, with a point between some of them or without one. -/
inductive Written (q : ℚ) : List Char → Prop
  | whole {cs : List Char} (hdigits : ∀ c ∈ cs, isDigit c = true) (hne : cs ≠ [])
      (hvalue : (value cs : ℚ) = q) : Written q cs
  | point {cs ds : List Char} (hdigits : ∀ c ∈ cs, isDigit c = true) (hne : cs ≠ [])
      (hfraction : ∀ c ∈ ds, isDigit c = true)
      (hvalue : (value (cs ++ ds) * 10 ^ (-(ds.length : Int)) : ℚ) = q) :
      Written q (cs ++ '.' :: ds)

namespace Written

variable {q : ℚ} {cs : List Char}

/-- **A number in full reads as the double nearest to it.** -/
theorem scientific? (h : Written q cs) :
    (scientific? cs).map Scientific.toFloat = some (ofRat q) := by
  cases h with
  | whole hdigits hne hvalue =>
    have hsplit := digitsThen_append hdigits [] (by simp)
    rw [List.append_nil] at hsplit
    simp [Decimal.scientific?, hsplit, hne, exponent?, toFloat_eq_ofRat, Scientific.toRat, hvalue]
  | @point cs ds hdigits hne hfraction hvalue =>
    have hsplit := digitsThen_append hdigits ('.' :: ds) (by simp; decide)
    have hsplit' := digitsThen_append hfraction [] (by simp)
    rw [List.append_nil] at hsplit'
    have hsome : ¬ (cs.isEmpty && ds.isEmpty) = true := by simp [hne]
    simp only [Decimal.scientific?, hsplit, hsplit', if_neg hsome, exponent?]
    simp [toFloat_eq_ofRat, Scientific.toRat, ← hvalue]

theorem head (h : Written q cs) : ∃ d ds, cs = d :: ds ∧ isDigit d = true := by
  cases h with
  | @whole cs hdigits hne _ =>
    obtain ⟨d, ds, rfl⟩ := List.exists_cons_of_ne_nil hne
    exact ⟨d, ds, rfl, hdigits d (by simp)⟩
  | @point cs _ hdigits hne _ _ =>
    obtain ⟨d, ds, rfl⟩ := List.exists_cons_of_ne_nil hne
    exact ⟨d, _, rfl, hdigits d (by simp)⟩

theorem not_isBlank (h : Written q cs) : ∀ c ∈ cs, isBlank c = false := by
  intro c hc
  cases h with
  | whole hdigits _ _ => exact not_isBlank_of_isDigit (hdigits c hc)
  | point hdigits _ hfraction _ =>
    rw [List.mem_append, List.mem_cons] at hc
    rcases hc with hc | rfl | hc
    · exact not_isBlank_of_isDigit (hdigits c hc)
    · decide
    · exact not_isBlank_of_isDigit (hfraction c hc)

theorem unsigned? (h : Written q cs) : unsigned? cs = some (ofRat q) := by
  obtain ⟨d, ds, hcs, hd⟩ := h.head
  -- no word for a number starts with a digit
  have hword : ∀ w : String, (∀ c ∈ w.toList.head?, isDigit c = false) →
      String.ofList (cs.map Char.toLower) ≠ w := by
    rintro w hw rfl
    rw [String.toList_ofList, hcs, List.map_cons, toLower_of_isDigit hd] at hw
    exact absurd hd (by simp [hw d rfl])
  have hinf := hword "inf" (by simp; decide)
  have hinfinity := hword "infinity" (by simp; decide)
  have hnan := hword "nan" (by simp; decide)
  rw [Decimal.unsigned?, if_neg (not_or.mpr ⟨hinf, hinfinity⟩), if_neg hnan, h.scientific?]

/-- **A number in full reads as the double nearest to it**, with a sign before it or without one. -/
theorem figure (h : Written q cs) (negative : Bool) :
    figure (String.ofList (if negative then '-' :: cs else cs)) =
      if negative then -ofRat q else ofRat q := by
  have hblank : ∀ c ∈ (if negative then '-' :: cs else cs), isBlank c = false := by
    intro c hc
    cases negative with
    | false => exact h.not_isBlank c hc
    | true =>
      rcases List.mem_cons.mp hc with rfl | hc
      · decide
      · exact h.not_isBlank c hc
  have htrim := trim_eq_self (s := String.ofList (if negative then '-' :: cs else cs))
    (fun c hc => hblank c (by rw [String.toList_ofList] at hc; exact List.mem_of_mem_head? hc))
    (fun c hc => hblank c (by rw [String.toList_ofList] at hc; exact List.mem_of_getLast? hc))
  obtain ⟨d, ds, hcs, hd⟩ := h.head
  have hminus : d ≠ '-' := by rintro rfl; exact absurd hd (by decide)
  have hplus : d ≠ '+' := by rintro rfl; exact absurd hd (by decide)
  rw [Decimal.figure, htrim, float?, String.toList_ofList]
  cases negative with
  | true => simp [h.unsigned?]
  | false =>
    have hunsigned := h.unsigned?
    rw [hcs] at hunsigned
    simp [hcs, hminus, hplus, hunsigned]

end Written

section InFull

variable {ds : List Char} (hds : ∀ c ∈ ds, isDigit c = true)

include hds

theorem isDigit_of_mem_zeros_append (k : Nat) :
    ∀ c ∈ List.replicate k '0' ++ ds, isDigit c = true := by
  intro c hc
  rcases List.mem_append.mp hc with hc | hc
  · rw [List.eq_of_mem_replicate hc]
    decide
  · exact hds c hc

/-- Digits with zeros between the point and them. -/
theorem written_below_point (k : Nat) :
    Written (value ds * 10 ^ (-((k + ds.length : Nat) : Int)))
      ('0' :: '.' :: (List.replicate k '0' ++ ds)) := by
  have hzero : ∀ c ∈ ['0'], isDigit c = true := List.forall_mem_singleton.mpr (by decide)
  refine .point hzero (by simp) (isDigit_of_mem_zeros_append hds k) ?_
  have hvalue : value ('0' :: (List.replicate k '0' ++ ds)) = value ds := value_zeros (k + 1) ds
  rw [List.singleton_append, hvalue, List.length_append, List.length_replicate]

/-- Digits with zeros after them. -/
theorem written_whole (hne : ds ≠ []) (k : Nat) :
    Written (value ds * 10 ^ k) (ds ++ List.replicate k '0') := by
  refine .whole (fun c hc => isDigit_of_mem_zeros_append hds k c ?_) (by simp [hne]) ?_
  · rw [List.mem_append] at hc ⊢
    exact hc.symm
  · rw [value_append_zeros]
    push_cast
    rfl

/-- Digits with a point between them. -/
theorem written_around_point {k : Nat} (hk : k < ds.length) :
    Written (value ds * 10 ^ (-((ds.length - (k + 1) : Nat) : Int)))
      (ds.take (k + 1) ++ '.' :: ds.drop (k + 1)) := by
  have hne : ds.take (k + 1) ≠ [] := by
    rw [← List.length_pos_iff, List.length_take]
    omega
  refine .point (fun c hc => hds c (List.mem_of_mem_take hc)) hne
    (fun c hc => hds c (List.mem_of_mem_drop hc)) ?_
  rw [List.take_append_drop, List.length_drop]

end InFull

/-- **The digits of a decimal, laid out in full.** -/
theorem written_inFull (d : Scientific) : Written d.toRat (Layout.plain.inFull (numeral d.digits)
    (d.exponent + (numeral d.digits).length - 1)) := by
  have hdigits : ∀ c ∈ numeral d.digits, isDigit c = true := fun c => isDigit_of_mem_numeral
  have hlen : 0 < (numeral d.digits).length := List.length_pos_iff.mpr (numeral_ne_nil _)
  generalize hlead : d.exponent + (numeral d.digits).length - 1 = lead
  have hq : ∀ k : Int, d.exponent = k → d.toRat = value (numeral d.digits) * 10 ^ k := by
    rintro k rfl
    rw [value_numeral, Scientific.toRat]
  rw [Layout.inFull]
  split
  · rw [hq (-(((-lead).toNat - 1 + (numeral d.digits).length : Nat) : Int)) (by omega)]
    exact written_below_point hdigits _
  · dsimp only
    split
    · have hplain : (if Layout.plain.pointZero = true then ['.', '0'] else []) = [] := rfl
      rw [hplain, List.append_nil,
        hq ((lead.toNat + 1 - (numeral d.digits).length : Nat) : Int) (by omega), zpow_natCast]
      exact written_whole hdigits (numeral_ne_nil _) _
    · rw [hq (-(((numeral d.digits).length - (lead.toNat + 1) : Nat) : Int)) (by omega)]
      exact written_around_point hdigits (by omega)

/-! ## Every number -/

/-- What is finite and not zero is written by its digits, after its sign. -/
theorem Layout.write_of_unpack (l : Layout) {x : Float} {s : Sign} {m : Nat} {e : Int} {hm : 0 < m}
    (hu : x.toModel.unpack = .finite s m e hm) : l.write x =
      String.ofList (if isNegative x then '-' :: l.magnitude x.abs else l.magnitude x.abs) := by
  have hnan : x.isNaN = false := by simp [Float.isNaN, Float.Model.isNaN, hu, UnpackedFloat.isNaN]
  have hinf : x.isInf = false := by simp [Float.isInf, Float.Model.isInf, hu, UnpackedFloat.isInf]
  have hzero : (x == 0) = false := by
    show (x.toModel.unpack.compare (.zero .positive) == some .eq) = false
    rw [hu]
    cases s <;> rfl
  rw [Layout.write, hnan, hinf, hzero]
  rfl

/-- **A number in a sentence reads back**, be it finite, infinite or NaN. -/
theorem figure_write (x : Float) : figure (Layout.plain.write x) = x := by
  have hx := pack_unpack x
  cases hu : x.toModel.unpack with
  | notANumber =>
    rw [hu] at hx
    subst hx
    decide +kernel
  | infinity s =>
    rw [hu] at hx
    subst hx
    cases s <;> decide +kernel
  | zero s =>
    rw [hu] at hx
    subst hx
    cases s <;> decide +kernel
  | finite s m e hm =>
    have hwritten := (written_inFull (shortest x.abs)).figure (isNegative x)
    rw [← toFloat_eq_ofRat, shortest_toFloat (unpack_abs hu), signed_abs hu] at hwritten
    rw [Layout.write_of_unpack _ hu]
    exact hwritten

/-! ## Texts with a comma -/

section Comma

variable {cs : List Char} {x : Float} {s : String}

theorem mem_dropWhile {α : Type} {p : α → Bool} {a : α} {as : List α} (h : a ∈ as)
    (ha : p a = false) : a ∈ as.dropWhile p := by
  rw [← List.takeWhile_append_dropWhile (p := p) (l := as), List.mem_append] at h
  refine h.resolve_left fun htake => ?_
  rw [List.mem_takeWhile_imp htake] at ha
  cases ha

theorem comma_notMem_of_isDigit (h : ∀ c ∈ cs, isDigit c = true) : ',' ∉ cs := fun hmem =>
  absurd (h ',' hmem) (by decide)

theorem comma_notMem_of_exponent? {e : Int} (h : exponent? cs = some e) : ',' ∉ cs := by
  unfold exponent? at h
  split at h
  · exact List.not_mem_nil
  next mark rest =>
  split at h
  next hmark =>
    have hrest : ',' ∉ rest := by
      split at h
      next digits hsign =>
      split at h
      · cases h
      next hdigits =>
      simp only [Bool.or_eq_true, Bool.not_eq_true', not_or, Bool.not_eq_false,
        List.all_eq_true] at hdigits
      have hcomma := comma_notMem_of_isDigit hdigits.2
      split at hsign <;> cases hsign <;> simpa using hcomma
    rcases hmark with rfl | rfl <;> simpa using hrest
  · cases h

theorem comma_notMem_of_scientific? {d : Scientific} (h : scientific? cs = some d) : ',' ∉ cs := by
  intro hmem
  have hcomma : isDigit ',' = false := by decide
  have hrest := mem_dropWhile hmem hcomma
  unfold scientific? digitsThen at h
  dsimp only at h
  split at h
  · next rest hpoint =>
    rw [hpoint] at hrest
    split at h
    · cases h
    obtain ⟨e, he, -⟩ := Option.map_eq_some_iff.mp h
    exact comma_notMem_of_exponent? he (mem_dropWhile (by simpa using hrest) hcomma)
  · split at h
    · cases h
    obtain ⟨e, he, -⟩ := Option.map_eq_some_iff.mp h
    exact comma_notMem_of_exponent? he hrest

theorem comma_notMem_of_unsigned? (h : unsigned? cs = some x) : ',' ∉ cs := by
  have hword : ∀ w : String, String.ofList (cs.map Char.toLower) = w → ',' ∉ w.toList →
      ',' ∉ cs := by
    rintro w rfl hw hmem
    rw [String.toList_ofList] at hw
    exact hw (List.mem_map.mpr ⟨',', hmem, by decide⟩)
  unfold unsigned? at h
  dsimp only at h
  split at h
  · next hinf =>
    rcases hinf with hw | hw <;> exact hword _ hw (by simp)
  · split at h
    · next hnan => exact hword _ hnan (by simp)
    · obtain ⟨d, hd, -⟩ := Option.map_eq_some_iff.mp h
      exact comma_notMem_of_scientific? hd

theorem comma_notMem_of_float? (h : float? s = some x) : ',' ∉ s.toList := by
  unfold float? at h
  split at h
  · next cs hs =>
    obtain ⟨y, hy, -⟩ := Option.map_eq_some_iff.mp h
    simpa [hs] using comma_notMem_of_unsigned? hy
  · next cs hs => simpa [hs] using comma_notMem_of_unsigned? h
  · exact comma_notMem_of_unsigned? h

/-- **No text with a comma shows a number.** -/
theorem figure_of_comma (h : ',' ∈ s.toList) : figure s = nan := by
  have hcomma : isBlank ',' = false := by decide
  have htrim : ',' ∈ (trim s).toList := by
    rw [trim, String.toList_ofList, trimBy, List.mem_reverse]
    exact mem_dropWhile (List.mem_reverse.mpr (mem_dropWhile h hcomma)) hcomma
  rw [figure]
  cases hf : float? (trim s) with
  | none => rfl
  | some x => exact absurd htrim (comma_notMem_of_float? hf)

end Comma

end Dunning.Decimal
