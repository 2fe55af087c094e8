import Dunning.Account.Basic

/-!
# Rule/Basic — ordered rules that classify an account

A rule holds of an account if all its thresholds do, so one without thresholds holds of every
account. Of a list of rules the first that holds decides; where none does, a default outcome
applies.
-/

namespace Dunning

/-- A figure of an account. -/
inductive Metric where
  | balance
  | daysInArrears
  deriving Repr, DecidableEq

/-- The figure of an account, if it is known. -/
def Metric.read (a : Account) : Metric → Option Float
  | .balance => a.balance
  | .daysInArrears => a.daysInArrears

/-- How a figure is compared with the value of a threshold. -/
inductive Relation where
  | greaterThan
  | atMost
  deriving Repr, DecidableEq

/-- The comparison itself; it fails on what is no number. -/
def Relation.test : Relation → Float → Float → Bool
  | .greaterThan, figure, value => figure > value
  | .atMost, figure, value => figure ≤ value

/-- A bound on a figure. -/
structure Threshold where
  relation : Relation
  metric : Metric
  value : Float
  deriving Repr, DecidableEq

/-- The figure is known and within the bound. -/
def Threshold.holds (t : Threshold) (a : Account) : Bool :=
  match t.metric.read a with
  | some figure => t.relation.test figure t.value
  | none => false

/-- A rule: its thresholds, and what it recommends where they all hold. -/
structure Rule where
  id : String
  name : String
  conditions : List Threshold
  priority : UInt8
  nextAction : String
  deriving Repr, DecidableEq

namespace Rule

/-- All thresholds hold. -/
def holds (r : Rule) (a : Account) : Bool :=
  r.conditions.all fun t => t.holds a

/-- The rule has no thresholds. -/
def isCatchAll (r : Rule) : Bool :=
  r.conditions.isEmpty

end Rule

/-- What rules say of an account. Without a rule the default outcome applied. -/
structure Classification where
  ruleId : Option String
  priority : UInt8
  nextAction : String
  delinquency : Delinquency
  deriving Repr, DecidableEq

/-- Rules in the order in which they are tried. -/
structure RuleSet where
  rules : List Rule
  deriving Repr, DecidableEq

namespace RuleSet

/-- The priority where no rule holds. -/
def defaultPriority : UInt8 := 5

/-- The recommendation where no rule holds. -/
def defaultAction : String := "Review Required"

/-- The last rule holds of every account. -/
def hasCatchAll (rs : RuleSet) : Bool :=
  match rs.rules.getLast? with
  | some rule => rule.isCatchAll
  | none => false

/-- The first rule that holds. -/
def firstMatch? (rs : RuleSet) (a : Account) : Option Rule :=
  rs.rules.find? fun rule => rule.holds a

/-- Classifies an account. -/
def classify (rs : RuleSet) (a : Account) : Classification :=
  let delinquency := Delinquency.ofDays a.daysInArrears
  match rs.firstMatch? a with
  | some rule => ⟨some rule.id, rule.priority, rule.nextAction, delinquency⟩
  | none => ⟨none, defaultPriority, defaultAction, delinquency⟩

/-- A classification as an evaluation. -/
def evaluate (rs : RuleSet) (a : Account) : Evaluation :=
  let c := rs.classify a
  ⟨Int32.ofNat c.priority.toNat, c.nextAction, c.delinquency, .lowerIsUrgent⟩

end RuleSet

end Dunning
