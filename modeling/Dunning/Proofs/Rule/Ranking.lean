import Dunning.Proofs.Decimal.Order
import Dunning.Proofs.Rule.Totality

/-!
# Proofs/Rule/Ranking — the standard rules rank accounts by balance and arrears

Two facts carry the ranking.  A bound from below that a figure exceeds is exceeded by every greater
figure, so a rule with no other bounds is not lost when figures rise (`Rule.holds_of_le`).  And the
rule that decides is as urgent as any that holds (`RuleSet.standard_le`): within the list a more
urgent rule comes before a less urgent one, but for one pair,

    rule_007   balance > 100 000                    3
    rule_008   balance > 10 000, days > 120         2

and where both hold, rule_004 has decided before.  One rule has a bound from above, on the balance;
an account that outgrows it comes to a rule that is more urgent.
-/

namespace Dunning

/-! ## Figures in order -/

namespace Figure

/-- The number of a figure: none where the figure is missing or NaN. -/
def number? (o : Option Float) : Option Float :=
  o.filter fun x => !x.isNaN

/-- A figure is at most another; what is no number lies below every number. -/
def AtMost (o o' : Option Float) : Prop :=
  ∀ x, number? o = some x → ∃ y, number? o' = some y ∧ x ≤ y

variable {o o' : Option Float} {x c : Float}

theorem number?_eq_some_iff : number? o = some x ↔ o = some x ∧ x.isNaN = false := by
  rw [number?, Option.filter_eq_some_iff, Bool.not_eq_true']

/-- What exceeds a bound exceeds it when it rises. -/
theorem AtMost.exceeds (h : AtMost o o') (ho : o = some x) (hx : c < x) :
    ∃ y, o' = some y ∧ c < y := by
  obtain ⟨y, hy, hle⟩ := h x (number?_eq_some_iff.mpr ⟨ho, (Decimal.not_isNaN_of_lt hx).2⟩)
  exact ⟨y, (number?_eq_some_iff.mp hy).1, Decimal.float_lt_of_lt_of_le hx hle⟩

end Figure

namespace Delinquency

/-- How many bands are milder. -/
def rank (d : Delinquency) : Nat :=
  all.idxOf d

theorem rank_le (d : Delinquency) : d.rank ≤ 4 := by
  cases d <;> decide

/-- **More days do not make a milder band.** -/
theorem rank_ofFigure_le {x y : Float} (h : x ≤ y) : (ofFigure x).rank ≤ (ofFigure y).rank := by
  have hx : ∀ c, y ≤ c → x ≤ c := fun c => Decimal.float_le_trans h
  rw [ofFigure, ofFigure]
  by_cases h0 : y ≤ 0
  · rw [if_pos h0, if_pos (hx 0 h0)]
  rw [if_neg h0]
  by_cases h30 : y ≤ 30
  · rw [if_pos h30, if_pos (hx 30 h30)]
    split <;> decide
  rw [if_neg h30]
  by_cases h60 : y ≤ 60
  · rw [if_pos h60, if_pos (hx 60 h60)]
    repeat' split
    all_goals decide
  rw [if_neg h60]
  by_cases h90 : y ≤ 90
  · rw [if_pos h90, if_pos (hx 90 h90)]
    repeat' split
    all_goals decide
  · rw [if_neg h90]
    exact rank_le _

end Delinquency

/-! ## Rules and rising figures -/

/-- Both figures of an account are at most those of another. -/
structure Account.AtMost (a b : Account) : Prop where
  balance : Figure.AtMost a.balance b.balance
  daysInArrears : Figure.AtMost a.daysInArrears b.daysInArrears

theorem Account.AtMost.read {a b : Account} (h : a.AtMost b) :
    ∀ m : Metric, Figure.AtMost (m.read a) (m.read b)
  | .balance => h.balance
  | .daysInArrears => h.daysInArrears

variable {a b : Account} {r : Rule} {rs : RuleSet}

namespace Threshold

variable {m : Metric} {c d : Float}

theorem holds_greaterThan_iff :
    (Threshold.mk .greaterThan m c).holds a = true ↔ ∃ x, m.read a = some x ∧ c < x := by
  cases hread : m.read a with
  | none => simp [holds, hread]
  | some x => simp [holds, hread, Relation.test]

theorem holds_atMost_iff :
    (Threshold.mk .atMost m c).holds a = true ↔ ∃ x, m.read a = some x ∧ x ≤ c := by
  cases hread : m.read a with
  | none => simp [holds, hread]
  | some x => simp [holds, hread, Relation.test]

/-- A bound from below stays exceeded. -/
theorem holds_of_le (h : a.AtMost b) (ha : (Threshold.mk .greaterThan m c).holds a = true) :
    (Threshold.mk .greaterThan m c).holds b = true := by
  obtain ⟨x, hx, hc⟩ := holds_greaterThan_iff.mp ha
  exact holds_greaterThan_iff.mpr ((h.read m).exceeds hx hc)

/-- What exceeds a bound exceeds a lower one. -/
theorem holds_of_lt (hcd : c < d) (ha : (Threshold.mk .greaterThan m d).holds a = true) :
    (Threshold.mk .greaterThan m c).holds a = true := by
  obtain ⟨x, hx, hd⟩ := holds_greaterThan_iff.mp ha
  have hle : d ≤ x := Decimal.le_iff.mpr (.inl (Decimal.lt_iff.mp hd))
  exact holds_greaterThan_iff.mpr ⟨x, hx, Decimal.float_lt_of_lt_of_le hcd hle⟩

end Threshold

/-- **A rule whose bounds are all from below is not lost when figures rise.** -/
theorem Rule.holds_of_le (h : a.AtMost b) (hr : ∀ t ∈ r.conditions, t.relation = .greaterThan)
    (ha : r.holds a = true) : r.holds b = true := by
  rw [holds, List.all_eq_true] at ha ⊢
  intro t ht
  obtain ⟨relation, m, c⟩ := t
  obtain rfl : relation = .greaterThan := hr _ ht
  exact Threshold.holds_of_le h (ha _ ht)

/-! ## The rule that decides -/

namespace RuleSet

theorem firstMatch?_eq_some (h : rs.firstMatch? a = some r) :
    r ∈ rs.rules ∧ r.holds a = true :=
  ⟨List.mem_of_find?_eq_some h, List.find?_some (p := fun m : Rule => m.holds a) h⟩

/-- Total rules have one that decides. -/
theorem Total.exists_rule (h : rs.Total) (a : Account) :
    ∃ r ∈ rs.rules, r.holds a = true ∧ (rs.classify a).priority = r.priority := by
  obtain ⟨r, hr⟩ : ∃ r, rs.firstMatch? a = some r := by
    rw [← Option.isSome_iff_exists, firstMatch?, List.find?_isSome]
    exact h a
  obtain ⟨hmem, hholds⟩ := firstMatch?_eq_some hr
  refine ⟨r, hmem, hholds, ?_⟩
  rw [classify, hr]

theorem classify_delinquency (rs : RuleSet) (a : Account) :
    (rs.classify a).delinquency = Delinquency.ofDays a.daysInArrears := by
  rw [classify]
  cases rs.firstMatch? a <;> rfl

/-- A rule that holds is no more urgent than the one that decides, if none before it that holds is
less urgent. -/
theorem priority_classify_le {i : Nat} (hi : rs.rules[i]? = some r) (hr : r.holds a = true)
    (hbefore : ∀ m ∈ rs.rules.take i, m.holds a = true → m.priority ≤ r.priority) :
    (rs.classify a).priority ≤ r.priority := by
  obtain ⟨hlt, rfl⟩ := List.getElem?_eq_some_iff.mp hi
  have hfirst : rs.firstMatch? a =
      ((rs.rules.take i).find? fun m => m.holds a).or (some rs.rules[i]) := by
    rw [← List.find?_cons_of_pos (p := fun m : Rule => m.holds a) (l := rs.rules.drop (i + 1)) hr,
      ← List.drop_eq_getElem_cons hlt, ← List.find?_append, List.take_append_drop, firstMatch?]
  rw [classify, hfirst]
  cases hm : (rs.rules.take i).find? fun m => m.holds a with
  | none => exact UInt8.le_refl _
  | some m =>
    exact hbefore m (List.mem_of_find?_eq_some hm)
      (List.find?_some (p := fun m : Rule => m.holds a) hm)

/-! ## The standard rules -/

theorem standard_total : standard.Total :=
  total_iff.mpr ⟨standard.rules[12], List.getElem_mem _, rfl⟩

/-- Before a standard rule stands none that is less urgent, except for one before rule_008. -/
theorem standard_sorted : ∀ i : Fin standard.rules.length, ∀ m ∈ standard.rules.take i,
    m.priority ≤ standard.rules[i].priority ∨ i.val = 7 ∧ m = standard.rules[6] := by
  decide +kernel

/-- **The rule that decides is as urgent as any that holds.** -/
theorem standard_le (hr : r ∈ standard.rules) (ha : r.holds a = true) :
    (standard.classify a).priority ≤ r.priority := by
  obtain ⟨i, hi, rfl⟩ := List.getElem_of_mem hr
  by_cases hpair : i = 7 ∧ standard.rules[6].holds a = true
  -- The balance exceeds 100 000 and the days 120, so the fourth rule holds too, and nothing before
  -- it is less urgent.
  · obtain ⟨rfl, hmedium⟩ := hpair
    simp only [standard, List.getElem_cons_succ, List.getElem_cons_zero, Rule.holds, List.all_cons,
      List.all_nil, Bool.and_true, Bool.and_eq_true] at ha hmedium
    have hdays : (daysOver 90).holds a = true := Threshold.holds_of_lt (by decide) ha.2
    have hfourth : standard.rules[3].holds a = true := by
      simp only [standard, List.getElem_cons_succ, List.getElem_cons_zero, Rule.holds,
        List.all_cons, List.all_nil, Bool.and_true, Bool.and_eq_true]
      exact ⟨hmedium, hdays⟩
    have hle := priority_classify_le (i := 3) rfl hfourth fun m hm _ =>
      (standard_sorted ⟨3, by decide⟩ m hm).resolve_right fun h => absurd h.1 (by decide : ¬ 3 = 7)
    exact UInt8.le_trans hle (by decide : (1 : UInt8) ≤ 2)
  · refine priority_classify_le (List.getElem?_eq_getElem hi) ha fun m hm hholds => ?_
    refine (standard_sorted ⟨i, hi⟩ m hm).resolve_right ?_
    rintro ⟨hseven, rfl⟩
    exact hpair ⟨hseven, hholds⟩

/-- Only one standard rule has a bound from above. -/
theorem standard_bounds : ∀ r ∈ standard.rules,
    (∀ t ∈ r.conditions, t.relation = .greaterThan) ∨ r = standard.rules[11] := by
  decide +kernel

/-- **A rule that holds leaves a rule that is as urgent**, when figures rise. -/
theorem exists_rule_of_le (h : a.AtMost b) (hr : r ∈ standard.rules) (ha : r.holds a = true) :
    ∃ r' ∈ standard.rules, r'.holds b = true ∧ r'.priority ≤ r.priority := by
  rcases standard_bounds r hr with hbounds | rfl
  · exact ⟨r, hr, Rule.holds_of_le h hbounds ha, UInt8.le_refl _⟩
  -- A balance of at most 10 000 stays below this bound or exceeds it.
  simp only [standard, List.getElem_cons_succ, List.getElem_cons_zero, Rule.holds, List.all_cons,
    List.all_nil, Bool.and_true, Bool.and_eq_true] at ha
  have hdays : (daysOver 90).holds b = true := Threshold.holds_of_le h ha.2
  obtain ⟨x, hx, hle⟩ := Threshold.holds_atMost_iff.mp ha.1
  obtain ⟨y, hy, -⟩ := h.balance x
    (Figure.number?_eq_some_iff.mpr ⟨hx, (Decimal.not_isNaN_of_le hle).1⟩)
  obtain ⟨hy, hnumber⟩ := Figure.number?_eq_some_iff.mp hy
  by_cases hmore : y > 10000
  · have hbalance : (balanceOver 10000).holds b = true :=
      Threshold.holds_greaterThan_iff.mpr ⟨y, hy, hmore⟩
    exact ⟨standard.rules[8], List.getElem_mem _, by simp [standard, Rule.holds, hbalance, hdays],
      by decide⟩
  · have hbalance : (balanceUpTo 10000).holds b = true :=
      Threshold.holds_atMost_iff.mpr ⟨y, hy, (Decimal.le_iff_not_gt hnumber (by decide)).mpr hmore⟩
    exact ⟨standard.rules[11], List.getElem_mem _, by simp [standard, Rule.holds, hbalance, hdays],
      UInt8.le_refl _⟩

/-- **The standard rules rank accounts by balance and arrears.**  An account whose figures are both
at least those of another, what is missing or NaN being less than every number, gets a priority that
is at least as urgent, and a rule decides for each of the two.  Its delinquency is no milder, if the
days in arrears of the other are a number, and so its own are. -/
theorem standard_ranks (hbalance : Figure.AtMost a.balance b.balance)
    (hdays : Figure.AtMost a.daysInArrears b.daysInArrears) :
    (standard.classify b).priority ≤ (standard.classify a).priority ∧
      (standard.classify a).ruleId ≠ none ∧ (standard.classify b).ruleId ≠ none ∧
      ∀ x, Figure.number? a.daysInArrears = some x →
        (standard.classify a).delinquency.rank ≤ (standard.classify b).delinquency.rank := by
  have hruleId := total_iff_ruleId.mp standard_total
  refine ⟨?_, hruleId a, hruleId b, fun x hx => ?_⟩
  · obtain ⟨r, hr, hholds, hpriority⟩ := standard_total.exists_rule a
    obtain ⟨r', hr', hholds', hle⟩ := exists_rule_of_le ⟨hbalance, hdays⟩ hr hholds
    rw [hpriority]
    exact UInt8.le_trans (standard_le hr' hholds') hle
  · obtain ⟨y, hy, hle⟩ := hdays x hx
    rw [classify_delinquency, classify_delinquency, (Figure.number?_eq_some_iff.mp hx).1,
      (Figure.number?_eq_some_iff.mp hy).1]
    exact Delinquency.rank_ofFigure_le hle

/-- An account whose balance rises past 10 000, the one bound from above, becomes more urgent as its
days rise too. -/
theorem standard_ranks_rising :
    let a : Account := { Account.blank with balance := some 10000, daysInArrears := some 90.5 }
    let b : Account := { Account.blank with balance := some 10000.25, daysInArrears := some 121 }
    Figure.AtMost a.balance b.balance ∧ Figure.AtMost a.daysInArrears b.daysInArrears ∧
      (standard.classify a).priority = 4 ∧ (standard.classify b).priority = 2 ∧
      (standard.classify b).priority ≤ (standard.classify a).priority ∧
      (standard.classify a).delinquency.rank ≤ (standard.classify b).delinquency.rank := by
  intro a b
  have hbalance : Figure.AtMost a.balance b.balance := by
    rintro x hx
    obtain rfl := Option.some.inj (Figure.number?_eq_some_iff.mp hx).1
    exact ⟨10000.25, by decide +kernel, by decide +kernel⟩
  have hdays : Figure.AtMost a.daysInArrears b.daysInArrears := by
    rintro x hx
    obtain rfl := Option.some.inj (Figure.number?_eq_some_iff.mp hx).1
    exact ⟨121, by decide +kernel, by decide +kernel⟩
  obtain ⟨hle, -, -, hrank⟩ := standard_ranks hbalance hdays
  exact ⟨hbalance, hdays, by decide +kernel, by decide +kernel, hle, hrank 90.5 (by decide +kernel)⟩

end RuleSet

end Dunning
