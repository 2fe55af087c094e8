import Dunning.Condition.Holds
import Dunning.Rule.Basic
import Dunning.Proofs.Decimal.Order
import Dunning.Proofs.Decimal.ReadBack

/-!
# Proofs/Condition/Numeric — comparing a figure

An order is asked of the number that a literal shows, while equality is asked of its text, which is
read as a number again.  The two agree on every literal, by induction on how deep its lists are
nested:

  one item                as the item itself
  none, or two and more   a text that is empty or has a comma, and shows no number

(`Literal.figure_shown`), so a figure is equal to a literal, greater or less, and one of these at
most.  None of them holds where the figure is missing or one of the two is NaN.
-/

namespace Dunning

/-! ## The number of a literal -/

/-- **The text of a literal shows the number of the literal**, however deep its lists are nested. -/
theorem Literal.figure_shown : (v : Literal) → Decimal.figure v.shown = v.figure
  | .number x => Decimal.figure_write x
  | .text _ => rfl
  | .list [] => by decide +kernel
  | .list [item] => by
    have hshown : (Literal.list [item]).shown = item.shown := by
      rw [shown, shownItems, shownItems, String.intercalate_singleton]
    rw [hshown, figure_shown item, figure]
  | .list (first :: second :: rest) => by
    have hcomma : ',' ∈ (Literal.list (first :: second :: rest)).shown.toList := by
      simp [shown, shownItems, String.intercalate_cons_cons]
    rw [Decimal.figure_of_comma hcomma]
    rfl
  | .empty => by decide +kernel

/-! ## One figure and one literal -/

/-- The comparison that asks for an order. -/
def Comparison.ofOrdering : Ordering → Comparison
  | .eq => .equals
  | .gt => .greaterThan
  | .lt => .lessThan

section Figure

open Decimal

variable {o : Option Float} {v w : Literal} {r : Ordering}

/-- How a figure compares with a literal; not at all if it is missing or one of them is NaN. -/
def Literal.compare? (v : Literal) (o : Option Float) : Option Ordering :=
  o.bind fun x => Decimal.compare? x v.figure

theorem Literal.matched_number (x : Float) (v : Literal) :
    v.matched (.number x) = (x == v.figure) := by
  cases v with
  | number y => rfl
  | text s => rfl
  | list items => rw [← figure_shown (.list items)]; rfl
  | empty =>
    have hnan : Decimal.compare? x nan = none := compare_eq_none_iff.mpr (.inr isNaN_nan)
    show false = (Decimal.compare? x nan == some .eq)
    rw [hnan]
    rfl

theorem Literal.matched_missing (v : Literal) : v.matched .missing = false := by
  cases v <;> rfl

theorem compare_missing (y : Float) : Decimal.compare? Value.missing.figure y = none :=
  compare_eq_none_iff.mpr (.inl isNaN_nan)

/-- **The three comparisons are read off one**, that of the two numbers. -/
theorem Comparison.test_ofOrdering_iff :
    (ofOrdering r).test (.ofNumber o) v = true ↔ v.compare? o = some r := by
  cases o with
  | none =>
    cases r with
    | eq => simp [ofOrdering, test, Value.ofNumber, Literal.matched_missing, Literal.compare?]
    | gt => simp [ofOrdering, test, Value.ofNumber, gt_iff, compare_missing, Literal.compare?]
    | lt => simp [ofOrdering, test, Value.ofNumber, lt_iff, compare_missing, Literal.compare?]
  | some x =>
    show _ ↔ Decimal.compare? x v.figure = some r
    cases r with
    | eq => rw [ofOrdering, test, Value.ofNumber, Literal.matched_number, beq_iff]
    | gt => rw [ofOrdering, test, Value.ofNumber, decide_eq_true_iff, Value.figure, gt_iff]
    | lt => rw [ofOrdering, test, Value.ofNumber, decide_eq_true_iff, Value.figure, lt_iff]

/-- A range encloses a figure. -/
theorem Literal.encloses_ofNumber_iff : (Literal.list [v, w]).encloses (.ofNumber o) = true ↔
    ∃ x, o = some x ∧ v.figure ≤ x ∧ x ≤ w.figure := by
  have hrange : (Literal.list [v, w]).encloses (.ofNumber o) =
      (v.figure ≤ (Value.ofNumber o).figure && (Value.ofNumber o).figure ≤ w.figure) := rfl
  rw [hrange, Bool.and_eq_true, decide_eq_true_iff, decide_eq_true_iff]
  cases o with
  | none =>
    have hnan : ¬ v.figure ≤ Value.missing.figure := not_le_nan _
    simp [Value.ofNumber, hnan]
  | some x => simp [Value.ofNumber, Value.figure]

end Figure

/-! ## Conditions on a figure -/

/-- The attribute under which conditions see a figure. -/
def Metric.attribute : Metric → Attribute
  | .balance => .balance
  | .daysInArrears => .daysInArrears

namespace Metric

variable {f : Metric} {title : String} {v w : Literal} {a : Account} {r : Ordering}

/-- The condition that a figure compares with a literal. -/
def condition (f : Metric) (title : String) (c : Comparison) (v : Literal) : Condition :=
  ⟨title, f.attribute, c, v⟩

/-- Those of the three comparisons that hold between a figure and a literal. -/
def relations (f : Metric) (title : String) (v : Literal) (a : Account) : List Comparison :=
  [.equals, .greaterThan, .lessThan].filter fun c => (f.condition title c v).holds a

theorem holds_condition (f : Metric) (title : String) (c : Comparison) (v : Literal) (a : Account) :
    (f.condition title c v).holds a = c.test (.ofNumber (f.read a)) v := by
  cases f <;> rfl

theorem holds_ofOrdering_iff :
    (f.condition title (.ofOrdering r) v).holds a = true ↔
      ∃ x, f.read a = some x ∧ Decimal.compare? x v.figure = some r := by
  rw [holds_condition, Comparison.test_ofOrdering_iff]
  exact Option.bind_eq_some_iff

/-- **One of the three comparisons holds**, or none where the figure does not compare. -/
theorem relations_eq (f : Metric) (title : String) (v : Literal) (a : Account) :
    f.relations title v a = ((v.compare? (f.read a)).map Comparison.ofOrdering).toList := by
  have hholds : ∀ r, (f.condition title (.ofOrdering r) v).holds a =
      (v.compare? (f.read a) == some r) := fun r => by
    rw [Bool.eq_iff_iff, holds_condition, Comparison.test_ofOrdering_iff, beq_iff_eq]
  have heq : (f.condition title .equals v).holds a = _ := hholds .eq
  have hgt : (f.condition title .greaterThan v).holds a = _ := hholds .gt
  have hlt : (f.condition title .lessThan v).holds a = _ := hholds .lt
  simp only [relations, List.filter, heq, hgt, hlt]
  rcases v.compare? (f.read a) with _ | _ | _ | _ <;> rfl

theorem length_relations_eq_one_iff : (f.relations title v a).length = 1 ↔
    ∃ x, f.read a = some x ∧ x.isNaN = false ∧ v.figure.isNaN = false := by
  have hsome : (f.relations title v a).length = 1 ↔ ¬ v.compare? (f.read a) = none := by
    rw [relations_eq]
    cases v.compare? (f.read a) <;> simp
  rw [hsome]
  cases f.read a with
  | none => simp [Literal.compare?]
  | some x => simp [Literal.compare?, Decimal.compare_eq_none_iff]

/-- **A range holds of a figure that lies on neither side of it.** -/
theorem holds_between_iff : (f.condition title .between (.list [v, w])).holds a = true ↔
    ∃ x, f.read a = some x ∧ x.isNaN = false ∧ v.figure.isNaN = false ∧ w.figure.isNaN = false ∧
      (f.condition title .lessThan v).holds a = false ∧
      (f.condition title .greaterThan w).holds a = false := by
  rw [holds_condition, holds_condition, holds_condition]
  refine Literal.encloses_ofNumber_iff.trans ?_
  refine exists_congr fun x => and_congr_right fun hx => ?_
  have hless : Comparison.lessThan.test (.ofNumber (f.read a)) v = false ↔ ¬ x < v.figure := by
    rw [hx]
    exact decide_eq_false_iff_not
  have hmore : Comparison.greaterThan.test (.ofNumber (f.read a)) w = false ↔ ¬ x > w.figure := by
    rw [hx]
    exact decide_eq_false_iff_not
  rw [hless, hmore]
  constructor
  · rintro ⟨hlow, hhigh⟩
    obtain ⟨hv, hnan⟩ := Decimal.not_isNaN_of_le hlow
    obtain ⟨-, hw⟩ := Decimal.not_isNaN_of_le hhigh
    exact ⟨hnan, hv, hw, (Decimal.ge_iff_not_lt hnan hv).mp hlow,
      (Decimal.le_iff_not_gt hnan hw).mp hhigh⟩
  · rintro ⟨hnan, hv, hw, hlow, hhigh⟩
    exact ⟨(Decimal.ge_iff_not_lt hnan hv).mpr hlow, (Decimal.le_iff_not_gt hnan hw).mpr hhigh⟩

end Metric

/-- **Comparing a figure is coherent.**  The three comparisons are those of the number that the
literal shows; one of them holds at most, and one does where neither number is missing or NaN; and a
range encloses the figures on neither side of it. -/
theorem figure_comparisons_cohere (f : Metric) (title : String) (v w : Literal) (a : Account) :
    ((f.condition title .equals v).holds a = true ↔
        ∃ x, f.read a = some x ∧ (x == v.figure) = true) ∧
      ((f.condition title .greaterThan v).holds a = true ↔
        ∃ x, f.read a = some x ∧ x > v.figure) ∧
      ((f.condition title .lessThan v).holds a = true ↔
        ∃ x, f.read a = some x ∧ x < v.figure) ∧
      (f.relations title v a).length ≤ 1 ∧
      ((f.relations title v a).length = 1 ↔
        ∃ x, f.read a = some x ∧ x.isNaN = false ∧ v.figure.isNaN = false) ∧
      ((f.condition title .between (.list [v, w])).holds a = true ↔
        ∃ x, f.read a = some x ∧ x.isNaN = false ∧ v.figure.isNaN = false ∧
          w.figure.isNaN = false ∧ (f.condition title .lessThan v).holds a = false ∧
          (f.condition title .greaterThan w).holds a = false) := by
  refine ⟨?_, ?_, ?_, ?_, Metric.length_relations_eq_one_iff, Metric.holds_between_iff⟩
  · simp only [Decimal.beq_iff]
    exact Metric.holds_ofOrdering_iff (r := .eq)
  · simp only [Decimal.gt_iff]
    exact Metric.holds_ofOrdering_iff (r := .gt)
  · simp only [Decimal.lt_iff]
    exact Metric.holds_ofOrdering_iff (r := .lt)
  · rw [Metric.relations_eq]
    cases v.compare? (f.read a) <;> simp

end Dunning
