import Dunning.Calendar.Date
import Dunning.Proofs.Decimal.ReadBack

/-!
# Proofs/Calendar/ReadBack — a written date reads back

The three numbers of a date are written with as many digits as are read at most, and a dash ends
each of them (`number_append`).  A year that four digits do not hold has its sign written, and then
any number of digits is read.  So the text of a day is read as that day (`parse_text`), in every
year the calendar covers.
-/

namespace Dunning

open Dunning.Text Dunning.Decimal

/-! ## Digits -/

namespace Decimal

theorem length_numeral_le {n k : Nat} (hk : 0 < k) (h : n < 10 ^ k) : (numeral n).length ≤ k := by
  induction k generalizing n with
  | zero => exact absurd hk (Nat.lt_irrefl 0)
  | succ k ih =>
    rw [numeral]
    split
    · simp
    · next hge =>
      have hk : 0 < k := by
        by_contra h0
        obtain rfl : k = 0 := by omega
        omega
      have hdiv : n / 10 < 10 ^ k := by
        rw [pow_succ] at h
        omega
      rw [List.length_append, List.length_singleton]
      exact Nat.succ_le_succ (ih hk hdiv)

theorem isDigit_of_mem_padded {width n : Nat} {c : Char} (h : c ∈ padded width n) :
    isDigit c = true :=
  isDigit_of_mem_zeros_append (fun _ => isDigit_of_mem_numeral) _ c h

theorem padded_ne_nil (width n : Nat) : padded width n ≠ [] := by
  simp [padded, numeral_ne_nil]

/-- A number that the width holds has no more digits. -/
theorem length_padded_le {width n : Nat} (hwidth : 0 < width) (h : n < 10 ^ width) :
    (padded width n).length ≤ width := by
  have hlength := length_numeral_le hwidth h
  rw [padded, List.length_append, List.length_replicate]
  omega

theorem padded_eq_cons (width n : Nat) :
    ∃ c cs, padded width n = c :: cs ∧ isDigit c = true := by
  obtain ⟨c, cs, hcs⟩ := List.exists_cons_of_ne_nil (padded_ne_nil width n)
  have hmem : c ∈ padded width n := hcs ▸ List.mem_cons_self
  exact ⟨c, cs, hcs, isDigit_of_mem_padded hmem⟩

end Decimal

namespace Date

open Calendar

variable {cs rest : List Char} {n : Nat}

/-! ## The parts of a date -/

/-- Digits are read up to a character that is none. -/
theorem number_append (most : Option Nat) (hdigits : ∀ c ∈ cs, isDigit c = true) (hne : cs ≠ [])
    (hmost : ∀ n ∈ most, cs.length ≤ n) (hsize : value cs < 2 ^ 63)
    (hrest : ∀ c ∈ rest.head?, isDigit c = false) :
    number most (cs ++ rest) = .ok (value cs, rest) := by
  have htake : (cs ++ rest).takeWhile isDigit = cs :=
    congrArg Prod.fst (digitsThen_append hdigits rest hrest)
  have hfound : digits most (cs ++ rest) = cs := by
    cases most with
    | none => exact htake
    | some n =>
      show ((cs ++ rest).takeWhile isDigit).take n = cs
      rw [htake]
      exact List.take_of_length_le (hmost n rfl)
  have hlt : ¬ Nat.pow 2 63 ≤ value cs := not_le.mpr hsize
  simp [number, hfound, hne, hlt]

/-- A number with leading zeros, of as many digits as are read at most. -/
theorem number_padded {width : Nat} (hwidth : 0 < width) (hn : n < 10 ^ width) (hsize : n < 2 ^ 63)
    (hrest : ∀ c ∈ rest.head?, isDigit c = false) :
    number (some width) (padded width n ++ rest) = .ok (n, rest) := by
  have h := number_append (some width) (fun _ => isDigit_of_mem_padded) (padded_ne_nil width n)
    (fun k hk => Option.some.inj hk ▸ length_padded_le hwidth hn) (by rwa [value_padded]) hrest
  rwa [value_padded] at h

theorem part_padded {greatest : Nat} (h : 1 ≤ n ∧ n ≤ greatest) (hn : n < 10 ^ 2)
    (hrest : ∀ c ∈ rest.head?, isDigit c = false) :
    part greatest (padded 2 n ++ rest) = .ok (n, rest) := by
  have hin : ¬ (n < 1 ∨ greatest < n) := by omega
  rw [part, number_padded (by decide) hn (by omega) hrest]
  exact if_neg hin

/-- What opens with no blank is left alone. -/
theorem dropWhile_isBlank_cons {c : Char} (h : isBlank c = false) (cs : List Char) :
    (c :: cs).dropWhile isBlank = c :: cs :=
  List.dropWhile_cons_of_neg (by simp [h])

/-- A dash and a number behind it. -/
theorem dash_padded (width n : Nat) (rest : List Char) :
    dash ('-' :: (padded width n ++ rest)) = .ok (padded width n ++ rest) := by
  obtain ⟨c, cs, hcs, hc⟩ := padded_eq_cons width n
  rw [dash, dropWhile_isBlank_cons (by decide), hcs, List.cons_append]
  exact congrArg Except.ok (dropWhile_isBlank_cons (not_isBlank_of_isDigit hc) _)

/-- The year, with a sign where four digits do not hold it. -/
theorem yearNumber_text {year : Int} (h : firstYear ≤ year ∧ year ≤ lastYear)
    (hrest : ∀ c ∈ rest.head?, isDigit c = false) :
    yearNumber ((yearText year).toList ++ rest) = .ok (year, rest) := by
  have hfirst : firstYear = -262143 := rfl
  have hlast : lastYear = 262142 := rfl
  have hin : ¬ (year < -2147483648 ∨ 2147483647 < year) := by omega
  rw [yearText]
  split
  · next hplain =>
    have hwidth : year.toNat < 10 ^ 4 := by omega
    have hnumber := number_padded (by decide) hwidth (by omega) hrest
    obtain ⟨c, cs, hcs, hc⟩ := padded_eq_cons 4 year.toNat
    have hminus : c ≠ '-' := by rintro rfl; exact absurd hc (by decide)
    have hplus : c ≠ '+' := by rintro rfl; exact absurd hc (by decide)
    have hyear : (year.toNat : Int) = year := Int.toNat_of_nonneg hplain.1
    rw [hcs, List.cons_append] at hnumber
    rw [paddedText, String.toList_ofList, hcs, List.cons_append]
    simp [yearNumber, hminus, hplus, hnumber, Except.map, hyear]
    exact if_neg hin
  · next hsigned =>
    have hnumber := number_append none (fun _ => isDigit_of_mem_padded)
      (padded_ne_nil 4 year.natAbs) nofun (by rw [value_padded]; omega) hrest
    have hyear : (if year < 0 then -(year.natAbs : Int) else year.natAbs) = year := by
      split <;> omega
    rw [value_padded] at hnumber
    generalize year.natAbs = n at hnumber hyear ⊢
    by_cases hneg : year < 0
    · rw [if_pos hneg] at hyear ⊢
      simp [paddedText, yearNumber, hnumber, Except.map, hyear]
      exact if_neg hin
    · rw [if_neg hneg] at hyear ⊢
      simp [paddedText, yearNumber, hnumber, Except.map, hyear]
      exact if_neg hin

/-! ## Dates -/

/-- A year opens with no blank. -/
theorem yearText_eq_cons (year : Int) :
    ∃ c cs, (yearText year).toList = c :: cs ∧ isBlank c = false := by
  rw [yearText]
  split
  · obtain ⟨c, cs, hcs, hc⟩ := padded_eq_cons 4 year.toNat
    exact ⟨c, cs, by rw [paddedText, String.toList_ofList, hcs], not_isBlank_of_isDigit hc⟩
  · split
    · exact ⟨'-', padded 4 year.natAbs, by simp [paddedText], by decide⟩
    · exact ⟨'+', padded 4 year.natAbs, by simp [paddedText], by decide⟩

/-- **The text of a day is read as that day.** -/
theorem parse_text (d : Date) : parse d.text = .ok d := by
  obtain ⟨hyear, hmonth, hday⟩ := d.isDay
  have hdays : daysIn d.year d.month ≤ 31 := by
    rw [daysIn]
    repeat' split
    all_goals omega
  have hdash : ∀ (cs : List Char), ∀ c ∈ ('-' :: cs).head?, isDigit c = false := by
    intro cs c hc
    cases hc
    decide
  obtain ⟨c, cs, hcs, hblank⟩ := yearText_eq_cons d.year
  have htext : d.text.toList = (yearText d.year).toList ++
      '-' :: (padded 2 d.month ++ '-' :: (padded 2 d.day ++ [])) := by
    simp [text, paddedText]
  have hfirst : d.text.toList.dropWhile isBlank = d.text.toList := by
    rw [htext, hcs, List.cons_append]
    exact dropWhile_isBlank_cons hblank _
  have hof : of? d.year d.month d.day = some d := dif_pos d.isDay
  rw [parse, hfirst, htext, yearNumber_text hyear (hdash _)]
  simp only [Bind.bind, Except.bind, dash_padded]
  rw [part_padded hmonth (by omega) (hdash _)]
  simp only [dash_padded]
  rw [part_padded (by omega) (by omega) (by simp)]
  simp [hof]

end Date

end Dunning
