import Dunning.Text.Blank
import Dunning.Text.Pieces

/-!
# Proofs/Text/Joined — texts joined by a mark, and split again

    a   b   c    ─ join ─▸    a,b,c    ─ split ─▸   a   b   c
                                       ─ cut ───▸   a   b,c

Splitting at a mark is `List.splitOn` (`pieces_eq_splitOn`), so texts that are free of the mark come
back from what joins them (`split_intercalate`).  A cut takes the first of them off and leaves the
others joined (`splitOnce?_intercalate`).  Trimming a second time changes nothing (`trim_trim`).
-/

namespace Dunning.Text

variable {mark : Char} {s t : String} {cs ds : List Char}

/-! ## Splitting -/

theorem pieces_eq_splitOn (mark : Char) (cs : List Char) :
    pieces mark cs = cs.splitOn mark := by
  induction cs with
  | nil => rfl
  | cons c cs ih =>
    rw [pieces, ih, List.splitOn_cons_eq_if_modifyHead]
    by_cases hc : c = mark
    · simp [hc]
    · simp only [hc, beq_iff_eq, if_false]
      cases hp : cs.splitOn mark with
      | nil => exact absurd hp (List.splitOn_ne_nil mark cs)
      | cons p ps => rfl

/-- **Texts without the mark come back from the text that joins them.** -/
theorem split_intercalate {ts : List String} (hne : ts ≠ [])
    (h : ∀ t ∈ ts, mark ∉ t.toList) :
    split mark ((String.singleton mark).intercalate ts) = ts := by
  have hpieces : ∀ p ∈ ts.map String.toList, mark ∉ p := by simpa using h
  rw [split, pieces_eq_splitOn, String.toList_intercalate, String.toList_singleton,
    List.splitOn_intercalate mark hpieces (by simpa using hne), List.map_map]
  simp [Function.comp_def]

/-! ## Cutting -/

theorem cut?_of_notMem (h : mark ∉ cs) : cut? mark cs = none := by
  induction cs with
  | nil => rfl
  | cons c cs ih =>
    rw [List.mem_cons, not_or] at h
    rw [cut?, if_neg (Ne.symm h.1), ih h.2, Option.map_none]

theorem cut?_append_cons (h : mark ∉ cs) : cut? mark (cs ++ mark :: ds) = some (cs, ds) := by
  induction cs with
  | nil => rw [List.nil_append, cut?, if_pos rfl]
  | cons c cs ih =>
    rw [List.mem_cons, not_or] at h
    rw [List.cons_append, cut?, if_neg (Ne.symm h.1), ih h.2, Option.map_some]

theorem splitOnce?_of_notMem (h : mark ∉ s.toList) : splitOnce? mark s = none := by
  rw [splitOnce?, cut?_of_notMem h, Option.map_none]

/-- **A cut takes off the first of the joined texts.** -/
theorem splitOnce?_intercalate (h : mark ∉ s.toList) (ts : List String) :
    splitOnce? mark ((String.singleton mark).intercalate (s :: t :: ts)) =
      some (s, (String.singleton mark).intercalate (t :: ts)) := by
  rw [String.intercalate_cons_cons, splitOnce?, String.toList_append, String.toList_append,
    String.toList_singleton, List.append_assoc, List.singleton_append, cut?_append_cons h]
  simp only [Option.map_some, String.ofList_toList]

/-! ## Trimming -/

/-- What a trimmed list starts and ends with is kept. -/
theorem trimBy_trimBy {α : Type} (p : α → Bool) (xs : List α) :
    trimBy p (trimBy p xs) = trimBy p xs := by
  have hstop : ∀ (ys : List α), ∀ x ∈ (ys.dropWhile p).head?, p x = false := by
    intro ys x hx
    have h := List.head?_dropWhile_not p ys
    rwa [Option.mem_def.mp hx] at h
  apply trimBy_eq_self
  · intro x hx
    -- what is dropped at the end leaves the first member first
    have hprefix : trimBy p xs <+: xs.dropWhile p := by
      rw [trimBy, ← List.reverse_suffix, List.reverse_reverse]
      exact List.dropWhile_suffix p
    obtain ⟨dropped, hdropped⟩ := hprefix
    refine hstop xs x ?_
    rw [← hdropped, List.head?_append, Option.mem_def.mp hx]
    rfl
  · intro x hx
    rw [trimBy, List.getLast?_reverse] at hx
    exact hstop _ x hx

/-- **Trimming a second time changes nothing.** -/
theorem trim_trim (s : String) : trim (trim s) = trim s := by
  rw [trim, trim, String.toList_ofList, trimBy_trimBy]

end Dunning.Text
