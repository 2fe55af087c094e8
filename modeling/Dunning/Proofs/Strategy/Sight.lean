import Dunning.Strategy

/-!
# Proofs/Strategy/Sight — what a strategy looks at

A strategy sees four input fields of an account: the balance, the days in arrears, the band and the
category.  Rules see the first two only, and the delinquency in an evaluation tells of the days in
arrears alone (`Strategy.four_fields_decide`).  The derived fields are not among the four, so what a
strategy recommends does not depend on what was recommended before
(`Strategy.evaluate_withEvaluation`), and applying a strategy hides every strategy applied earlier
(`Strategy.refresh_refresh`).
-/

namespace Dunning

/-- Two accounts agree in the fields that strategies see. -/
structure Account.Alike (a b : Account) : Prop where
  balance : a.balance = b.balance
  daysInArrears : a.daysInArrears = b.daysInArrears
  band : a.band = b.band
  category : a.category = b.category

theorem Account.withEvaluation_alike (a : Account) (e : Evaluation) :
    (a.withEvaluation e).Alike a := ⟨rfl, rfl, rfl, rfl⟩

variable {a b : Account}

/-! ## Conditions and walks -/

theorem Value.of?_congr (h : a.Alike b) (subject : Attribute) :
    Value.of? a subject = Value.of? b subject := by
  cases subject <;> simp only [Value.of?, h.balance, h.daysInArrears, h.band, h.category]

theorem Condition.holds_congr (h : a.Alike b) (c : Condition) : c.holds a = c.holds b := by
  simp only [Condition.holds, Value.of?_congr h]

namespace Graph

theorem walkFrom_congr (h : a.Alike b) (g : Graph) :
    ∀ (fuel : Nat) (visited : List String) (n : Node),
      g.walkFrom a fuel visited n = g.walkFrom b fuel visited n
  | 0, _, _ => rfl
  | fuel + 1, visited, n => by
      have ih := walkFrom_congr h g fuel
      simp only [walkFrom, Condition.holds_congr h, ih]

/-- Accounts that are alike walk the same way, node by node. -/
theorem walk?_congr (h : a.Alike b) (g : Graph) : g.walk? a = g.walk? b := by
  have hw : g.walkFrom a g.nodes.length [] = g.walkFrom b g.nodes.length [] :=
    funext fun n => walkFrom_congr h g _ _ n
  rw [walk?, walk?, hw]

theorem outcome_congr (h : a.Alike b) (g : Graph) : g.outcome a = g.outcome b := by
  rw [outcome, outcome, walk?_congr h]

theorem evaluate_congr (h : a.Alike b) (g : Graph) : g.evaluate a = g.evaluate b := by
  simp only [evaluate, outcome_congr h, h.daysInArrears]

end Graph

/-! ## Rules -/

theorem Threshold.holds_congr (hb : a.balance = b.balance)
    (hd : a.daysInArrears = b.daysInArrears) (t : Threshold) : t.holds a = t.holds b := by
  cases hm : t.metric <;> simp only [Threshold.holds, hm, Metric.read, hb, hd]

/-- **Rules see the balance and the days in arrears, and nothing else.** -/
theorem RuleSet.evaluate_congr (hb : a.balance = b.balance)
    (hd : a.daysInArrears = b.daysInArrears) (rs : RuleSet) : rs.evaluate a = rs.evaluate b := by
  have hr : ∀ r : Rule, r.holds a = r.holds b := fun r => by
    simp only [Rule.holds, Threshold.holds_congr hb hd]
  simp only [evaluate, classify, firstMatch?, hr, hd]

theorem RuleSet.evaluate_delinquency (rs : RuleSet) (a : Account) :
    (rs.evaluate a).delinquency = Delinquency.ofDays a.daysInArrears := by
  rw [evaluate, classify]
  cases rs.firstMatch? a <;> rfl

/-! ## Strategies -/

namespace Strategy

/-- **A strategy sees four fields.** -/
theorem evaluate_congr (h : a.Alike b) : ∀ s : Strategy, s.evaluate a = s.evaluate b
  | .rules rs => rs.evaluate_congr h.balance h.daysInArrears
  | .graph g => g.evaluate_congr h

/-- **Derived fields are not seen.** -/
@[simp] theorem evaluate_withEvaluation (s : Strategy) (a : Account) (e : Evaluation) :
    s.evaluate (a.withEvaluation e) = s.evaluate a :=
  evaluate_congr (a.withEvaluation_alike e) s

@[simp] theorem evaluate_refresh (s t : Strategy) (a : Account) :
    s.evaluate (t.refresh a) = s.evaluate a := evaluate_withEvaluation s a _

/-- The delinquency is that of the days in arrears, whatever the strategy. -/
theorem evaluate_delinquency (a : Account) :
    ∀ s : Strategy, (s.evaluate a).delinquency = Delinquency.ofDays a.daysInArrears
  | .rules rs => rs.evaluate_delinquency a
  | .graph _ => rfl

/-- The scale of a strategy's priorities, whatever the account. -/
def scale : Strategy → PriorityScale
  | .rules _ => .lowerIsUrgent
  | .graph _ => .higherIsUrgent

theorem evaluate_scale (a : Account) : ∀ s : Strategy, (s.evaluate a).scale = s.scale
  | .rules _ => rfl
  | .graph _ => rfl

/-- The strategy applied last decides. -/
@[simp] theorem refresh_refresh (s t : Strategy) (a : Account) :
    s.refresh (t.refresh a) = s.refresh a := by
  rw [refresh, evaluate_refresh]
  rfl

/-- **Four fields decide what is recommended.**  Accounts that agree in them get the same evaluation
from every strategy, however they differ otherwise; rules ask for two of the four.  The delinquency
needs the days in arrears alone, and two strategies do not differ in it. -/
theorem four_fields_decide (s t : Strategy) (a b : Account) :
    (a.balance = b.balance → a.daysInArrears = b.daysInArrears → a.band = b.band →
      a.category = b.category → s.evaluate a = s.evaluate b) ∧
    (∀ rs, s = .rules rs → a.balance = b.balance → a.daysInArrears = b.daysInArrears →
      s.evaluate a = s.evaluate b) ∧
    (a.daysInArrears = b.daysInArrears →
      (s.evaluate a).delinquency = (t.evaluate b).delinquency) := by
  refine ⟨fun hb hd hband hcategory => evaluate_congr ⟨hb, hd, hband, hcategory⟩ s, ?_, ?_⟩
  · rintro rs rfl hb hd
    exact rs.evaluate_congr hb hd
  · intro hd
    rw [evaluate_delinquency, evaluate_delinquency, hd]

/-- Asks late accounts, and only these, for their category. -/
def sorting : Graph :=
  ⟨[⟨"late", none, .condition ⟨"", .band, .equals, .text "late"⟩, [⟨"card", none⟩, ⟨"wait", none⟩]⟩,
    ⟨"card", none, .condition ⟨"", .category, .inList, .text "card, loan"⟩,
      [⟨"letter", none⟩, ⟨"wait", none⟩]⟩,
    ⟨"letter", none, .ending ⟨"", "letter", ""⟩, []⟩,
    ⟨"wait", none, .ending ⟨"", "wait", ""⟩, []⟩]⟩

/-- A late account of which little else is known. -/
def lateCard : Account := { Account.blank with band := some "late", category := some "card" }

/-- Another one, which has a name and has been evaluated before. -/
def lateCardRenamed : Account :=
  { lateCard with
    id := "2"
    number := "B-2"
    customerName := "Other"
    daysInCollection := some 40
    status := some "open"
    priority := some 9
    nextAction := some "Escalate to manager"
    delinquency := some .early
    scale := some .higherIsUrgent }

/-- The graph sends both a letter, and the rules do not tell them from an account that is not
late. -/
theorem four_fields_decide_renamed :
    (graph sorting).evaluate lateCard = ⟨1, "End: letter", .critical, .higherIsUrgent⟩ ∧
      (graph sorting).evaluate lateCard = (graph sorting).evaluate lateCardRenamed ∧
      standard.evaluate .blank = standard.evaluate lateCardRenamed ∧
      ((graph sorting).evaluate lateCard).delinquency = (standard.evaluate .blank).delinquency :=
  ⟨by decide +kernel,
    (four_fields_decide (graph sorting) standard lateCard lateCardRenamed).1 rfl rfl rfl rfl,
    (four_fields_decide standard standard .blank lateCardRenamed).2.1 _ rfl rfl rfl,
    (four_fields_decide (graph sorting) standard lateCard .blank).2.2 rfl⟩

end Strategy

/-! ## Input fields and derived fields -/

namespace Account

/-- The account with its derived fields cleared: what was entered, and nothing derived from it. -/
def inputs (a : Account) : Account :=
  { a with priority := none, nextAction := none, delinquency := none, scale := none }

/-- All four derived fields are set, to what an evaluation says. -/
structure Carries (a : Account) (e : Evaluation) : Prop where
  priority : a.priority = some e.priority
  nextAction : a.nextAction = some e.nextAction
  delinquency : a.delinquency = some e.delinquency
  scale : a.scale = some e.scale

theorem carries_withEvaluation (a : Account) (e : Evaluation) : (a.withEvaluation e).Carries e :=
  ⟨rfl, rfl, rfl, rfl⟩

/-- An account is its input fields with what it carries. -/
theorem Carries.eq {e : Evaluation} (h : a.Carries e) : a = a.inputs.withEvaluation e := by
  obtain ⟨hp, hn, hd, hs⟩ := h
  cases a
  simp_all [inputs, withEvaluation]

theorem inputs_alike (a : Account) : a.inputs.Alike a := ⟨rfl, rfl, rfl, rfl⟩

end Account

end Dunning
