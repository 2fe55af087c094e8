import Mathlib.Data.List.TakeWhile
import Dunning.Text.Case

/-!
# Proofs/Text/Lowering — lower-casing a piece of a text

All characters but one lower-case in the same way wherever they stand.  The sigma looks for a cased
character before it and after it, past all that is case-ignorable, and so beyond the ends of a piece
that has nothing else to offer:

    alone       ΣΤΕΓΑΣ         στεγας         the last sigma ends a word
    in place    ΣΤΕΓΑΣΤΙΚΟ     στεγαστικο     no sigma does

A piece lower-cases in place as it does alone if and only if its sigmas end words in both or in
neither (`lowerIn_eq_iff`).  It does so in every place if and only if no sigma is *loose*: at one
end of the piece, case-ignorable characters aside, with nothing at the other that decides
(`settled_iff`).
-/

namespace Dunning.Text

variable {before after before' after' cs ds u v : List Char} {c : Char}

/-! ## In place -/

/-- A sigma between two runs of characters ends a word.  The run before it is given backwards. -/
def endsWord (before after : List Char) : Bool :=
  meetsCased before && !meetsCased after

/-- Lower-cases a character between two runs. -/
def lowerAt (before : List Char) (c : Char) (after : List Char) : List Char :=
  if c = sigma then [Char.ofNat (if endsWord before after then 0x3C2 else 0x3C3)] else lowerChar c

/-- Lower-cases a piece between two runs. -/
def lowerIn (before : List Char) : List Char → List Char → List Char
  | [], _ => []
  | c :: cs, after => lowerAt before c (cs ++ after) ++ lowerIn (c :: before) cs after

theorem lowerAfter_eq (before cs : List Char) : lowerAfter before cs = lowerIn before cs [] := by
  induction cs generalizing before with
  | nil => rfl
  | cons c cs ih => rw [lowerAfter, lowerIn, ih, List.append_nil, lowerAt, endsWord]

theorem lower_eq (cs : List Char) : lower cs = lowerIn [] cs [] := lowerAfter_eq [] cs

theorem lowerIn_append (before cs ds after : List Char) : lowerIn before (cs ++ ds) after =
    lowerIn before cs (ds ++ after) ++ lowerIn (cs.reverse ++ before) ds after := by
  induction cs generalizing before with
  | nil => rfl
  | cons c cs ih =>
    rw [List.cons_append, lowerIn, lowerIn, ih, List.append_assoc, List.append_assoc,
      List.reverse_cons, List.append_assoc, List.singleton_append]

theorem lowerIn_append_cons (before cs ds after : List Char) (c : Char) :
    lowerIn before (cs ++ c :: ds) after = lowerIn before cs (c :: ds ++ after) ++
      (lowerAt (cs.reverse ++ before) c (ds ++ after) ++
        lowerIn (c :: (cs.reverse ++ before)) ds after) := by
  rw [lowerIn_append, lowerIn]

/-- **What a piece lower-cases to in place is a piece of the lower-cased text.** -/
theorem lowerIn_piece (before cs after : List Char) :
    lowerIn before.reverse cs after <:+: lower (before ++ cs ++ after) := by
  refine ⟨lowerIn [] before (cs ++ after), lowerIn (cs.reverse ++ before.reverse) after [], ?_⟩
  rw [lower_eq, List.append_assoc before, lowerIn_append, lowerIn_append]
  simp only [List.append_nil, List.append_assoc]

theorem length_lowerAt (before before' after after' : List Char) (c : Char) :
    (lowerAt before c after).length = (lowerAt before' c after').length := by
  rw [lowerAt, lowerAt]
  split <;> rfl

theorem lowerAt_eq_iff : lowerAt before c after = lowerAt before' c after' ↔
    (c = sigma → endsWord before after = endsWord before' after') := by
  rw [lowerAt, lowerAt]
  by_cases hc : c = sigma
  · simp only [hc, if_true, true_imp_iff, List.cons.injEq, and_true]
    cases endsWord before after <;> cases endsWord before' after' <;> decide
  · simp [hc]

/-- **A piece lower-cases alike in two places just when its sigmas end words alike.** -/
theorem lowerIn_eq_iff : lowerIn before cs after = lowerIn before' cs after' ↔
    ∀ u v, cs = u ++ sigma :: v →
      endsWord (u.reverse ++ before) (v ++ after) =
        endsWord (u.reverse ++ before') (v ++ after') := by
  induction cs generalizing before before' with
  | nil => simp [lowerIn]
  | cons c cs ih =>
    have hparts : lowerIn before (c :: cs) after = lowerIn before' (c :: cs) after' ↔
        lowerAt before c (cs ++ after) = lowerAt before' c (cs ++ after') ∧
          lowerIn (c :: before) cs after = lowerIn (c :: before') cs after' :=
      ⟨fun h => List.append_inj h (length_lowerAt _ _ _ _ c), fun h => by
        rw [lowerIn, lowerIn, h.1, h.2]⟩
    rw [hparts, lowerAt_eq_iff, ih]
    constructor
    · rintro ⟨hfirst, hrest⟩ u v huv
      cases u with
      | nil =>
        obtain ⟨hc, rfl⟩ := List.cons.inj huv
        exact hfirst hc
      | cons d u =>
        obtain ⟨rfl, rfl⟩ := List.cons.inj huv
        simpa using hrest u v rfl
    · intro h
      refine ⟨?_, fun u v huv => ?_⟩
      · rintro rfl
        exact h [] cs rfl
      · simpa using h (c :: u) v (by rw [huv, List.cons_append])

/-- The sigmas of a piece end words in place just where they do alone. -/
def KeepsSigmas (before cs after : List Char) : Prop :=
  ∀ u v, cs = u ++ sigma :: v →
    endsWord (u.reverse ++ before.reverse) (v ++ after) = endsWord u.reverse v

theorem keepsSigmas_iff :
    KeepsSigmas before cs after ↔ lowerIn before.reverse cs after = lower cs := by
  rw [lower_eq, lowerIn_eq_iff]
  simp only [List.append_nil]
  rfl

instance (before cs after : List Char) : Decidable (KeepsSigmas before cs after) :=
  decidable_of_iff _ keepsSigmas_iff.symm

/-- **A piece whose sigmas stay as they are alone lower-cases to a piece.** -/
theorem KeepsSigmas.lower_piece (h : KeepsSigmas before cs after) :
    lower cs <:+: lower (before ++ cs ++ after) := by
  rw [← keepsSigmas_iff.1 h]
  exact lowerIn_piece before cs after

/-! ## Past what is ignorable -/

/-- Nothing but case-ignorable characters. -/
def Ignorable (cs : List Char) : Prop := ∀ c ∈ cs, inRanges ignorableRanges c = true

theorem meetsCased_append (h : Ignorable cs) (ds : List Char) :
    meetsCased (cs ++ ds) = meetsCased ds := by
  rw [meetsCased, meetsCased, List.dropWhile_append_of_pos h]

theorem meetsCased_append_of_not (h : ¬ Ignorable cs) (ds : List Char) :
    meetsCased (cs ++ ds) = meetsCased cs := by
  have hne : cs.dropWhile (inRanges ignorableRanges) ≠ [] := by
    rwa [ne_eq, List.dropWhile_eq_nil_iff]
  obtain ⟨d, rest, hd⟩ := List.exists_cons_of_ne_nil hne
  rw [meetsCased, meetsCased, List.dropWhile_append, hd]
  rfl

theorem meetsCased_of_ignorable (h : Ignorable cs) : meetsCased cs = false := by
  rw [← List.append_nil cs, meetsCased_append h]
  rfl

/-- A sigma is not ignorable, so nothing is seen beyond it. -/
theorem not_ignorable_of_sigma (h : sigma ∈ cs) : ¬ Ignorable cs := fun hall =>
  absurd (hall sigma h) (by decide +kernel)

/-! ## Loose and settled -/

/-- What a piece has before a sigma and after it does not decide whether the sigma ends a word: it
does if a cased character comes before the piece, or does not if one comes after it. -/
def Loose (before after : List Char) : Prop :=
  (Ignorable before ∧ meetsCased after = false) ∨ (meetsCased before = true ∧ Ignorable after)

/-- No sigma of a piece is loose. -/
def Settled (cs : List Char) : Prop := ∀ u v, cs = u ++ sigma :: v → ¬ Loose u.reverse v

theorem endsWord_append (h : ¬ Loose before after) (ds ds' : List Char) :
    endsWord (before ++ ds) (after ++ ds') = endsWord before after := by
  rw [Loose, not_or, not_and, not_and] at h
  obtain ⟨hbefore, hafter⟩ := h
  by_cases hb : Ignorable before
  · have hcased : meetsCased after = true := by simpa using hbefore hb
    have ha : ¬ Ignorable after := fun ha => by simp [meetsCased_of_ignorable ha] at hcased
    simp [endsWord, meetsCased_append_of_not ha, hcased]
  · by_cases ha : Ignorable after
    · have hcased : meetsCased before = false := by simpa [ha] using hafter
      simp [endsWord, meetsCased_append_of_not hb, hcased]
    · rw [endsWord, endsWord, meetsCased_append_of_not hb, meetsCased_append_of_not ha]

/-- **A settled piece keeps its sigmas in every place.** -/
theorem Settled.keepsSigmas (h : Settled cs) (before after : List Char) :
    KeepsSigmas before cs after := fun u v huv => endsWord_append (h u v huv) _ _

theorem settled_of_sigma_notMem (h : sigma ∉ cs) : Settled cs := by
  rintro u v rfl
  exact absurd (by simp) h

/-! ## A loose sigma -/

theorem lowerAt_sigma (before after : List Char) :
    lowerAt before sigma after = [if endsWord before after then 'ς' else 'σ'] := by
  rw [lowerAt, if_pos rfl]
  cases endsWord before after <;> rfl

/-- Without a sigma the place does not matter. -/
theorem lowerIn_of_sigma_notMem (h : sigma ∉ cs) (before before' after after' : List Char) :
    lowerIn before cs after = lowerIn before' cs after' := by
  refine lowerIn_eq_iff.2 fun u v huv => absurd ?_ h
  rw [huv]
  simp

/-- What stands before the sigma that precedes a piece does not matter. -/
theorem lowerIn_after_sigma (before before' cs after : List Char) :
    lowerIn (sigma :: before) cs after = lowerIn (sigma :: before') cs after := by
  refine lowerIn_eq_iff.2 fun u v _ => ?_
  have hsigma : ¬ Ignorable (u.reverse ++ [sigma]) := not_ignorable_of_sigma (by simp)
  rw [List.append_cons, List.append_cons _ _ before', endsWord, endsWord,
    meetsCased_append_of_not hsigma, meetsCased_append_of_not hsigma]

/-- What stands after the sigma that follows a piece does not matter. -/
theorem lowerIn_before_sigma (before cs after after' : List Char) :
    lowerIn before cs (sigma :: after) = lowerIn before cs (sigma :: after') := by
  refine lowerIn_eq_iff.2 fun u v _ => ?_
  have hsigma : ¬ Ignorable (v ++ [sigma]) := not_ignorable_of_sigma (by simp)
  rw [List.append_cons, List.append_cons _ _ after', endsWord, endsWord,
    meetsCased_append_of_not hsigma, meetsCased_append_of_not hsigma]

/-- **A sigma parts the text**: what stands on one side of it does not matter to the other. -/
theorem lower_around_sigma (u v : List Char) : lower (u ++ sigma :: v) =
    lowerIn [] u [sigma] ++
      ((if endsWord u.reverse v then 'ς' else 'σ') :: lowerIn [sigma] v []) := by
  rw [lower_eq, lowerIn_append_cons, lowerAt_sigma, List.append_nil, List.append_nil,
    List.append_nil, lowerIn_before_sigma [] u v [], lowerIn_after_sigma u.reverse []]
  rfl

theorem lowerIn_letter (before after : List Char) : lowerIn before ['A'] after = ['a'] := rfl

theorem meetsCased_letter : meetsCased ['A'] = true := by decide +kernel

theorem not_piece_of_count (h : ds.count c < cs.count c) : ¬ cs <:+: ds := fun hpiece =>
  absurd (hpiece.sublist.count_le c) (by omega)

/-- A letter before the piece makes a loose sigma the end of a word. -/
theorem not_piece_of_loose_before (hu : Ignorable u.reverse) (hv : meetsCased v = false) :
    ¬ lower (u ++ sigma :: v) <:+: lower (['A'] ++ (u ++ sigma :: v)) := by
  have hsigma : sigma ∉ u := fun hmem => not_ignorable_of_sigma (by simpa using hmem) hu
  have halone : endsWord u.reverse v = false := by simp [endsWord, meetsCased_of_ignorable hu]
  have hplaced : endsWord (['A'] ++ u).reverse v = true := by
    rw [List.reverse_append, endsWord, meetsCased_append hu, hv]
    exact congrArg (· && true) meetsCased_letter
  have hletter : lowerIn [] (['A'] ++ u) [sigma] = 'a' :: lowerIn [] u [sigma] := by
    rw [lowerIn_append, lowerIn_letter, lowerIn_of_sigma_notMem hsigma _ [] _ [sigma]]
    rfl
  refine not_piece_of_count (c := 'σ') ?_
  rw [← List.append_assoc, lower_around_sigma, lower_around_sigma, halone, hplaced, hletter]
  simp

/-- A letter after the piece makes a loose sigma that ends a word end none. -/
theorem not_piece_of_loose_after (hu : meetsCased u.reverse = true) (hv : Ignorable v) :
    ¬ lower (u ++ sigma :: v) <:+: lower ((u ++ sigma :: v) ++ ['A']) := by
  have hsigma : sigma ∉ v := fun hmem => not_ignorable_of_sigma hmem hv
  have halone : endsWord u.reverse v = true := by
    simp [endsWord, hu, meetsCased_of_ignorable hv]
  have hplaced : endsWord u.reverse (v ++ ['A']) = false := by
    simp [endsWord, meetsCased_append hv, meetsCased_letter]
  have hletter : lowerIn [sigma] (v ++ ['A']) [] = lowerIn [sigma] v [] ++ ['a'] := by
    rw [lowerIn_append, lowerIn_letter, lowerIn_of_sigma_notMem hsigma _ [sigma] _ []]
  refine not_piece_of_count (c := 'ς') ?_
  rw [List.append_assoc, List.cons_append, lower_around_sigma, lower_around_sigma, halone, hplaced,
    hletter]
  simp

/-- **The pieces that lower-case to a piece of every text around them are the settled ones.** -/
theorem settled_iff :
    Settled cs ↔ ∀ before after, lower cs <:+: lower (before ++ cs ++ after) := by
  constructor
  · intro h before after
    exact (h.keepsSigmas before after).lower_piece
  · intro h u v huv hloose
    subst huv
    rcases hloose with ⟨hu, hv⟩ | ⟨hu, hv⟩
    · exact not_piece_of_loose_before hu hv (by simpa using h ['A'] [])
    · exact not_piece_of_loose_after hu hv (by simpa using h [] ['A'])

end Dunning.Text
