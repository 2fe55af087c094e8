import Dunning.Calendar.Date
import Dunning.Evaluation

/-!
# Account/Basic — accounts in collection

Figures are optional, so that a blank cell stays apart from zero. The last four fields are derived:
they hold what a strategy recommended, and `withEvaluation` replaces these and nothing else.
-/

namespace Dunning

/-- An account in collection. -/
structure Account where
  id : String
  number : String
  customerId : Option String
  customerName : String
  balance : Option Float
  originalAmount : Option Float
  lastPaymentAmount : Option Float
  lastPaymentDate : Option Date
  daysInArrears : Option Float
  daysInCollection : Option UInt32
  band : Option String
  category : Option String
  status : Option String
  priority : Option Int32
  nextAction : Option String
  delinquency : Option Delinquency
  scale : Option PriorityScale
  deriving Repr, DecidableEq

namespace Account

/-- An account of which nothing is known. -/
def blank : Account where
  id := ""
  number := ""
  customerId := none
  customerName := ""
  balance := none
  originalAmount := none
  lastPaymentAmount := none
  lastPaymentDate := none
  daysInArrears := none
  daysInCollection := none
  band := none
  category := none
  status := none
  priority := none
  nextAction := none
  delinquency := none
  scale := none

/-- Replaces the derived fields. -/
def withEvaluation (a : Account) (e : Evaluation) : Account :=
  { a with
    priority := some e.priority
    nextAction := some e.nextAction
    delinquency := some e.delinquency
    scale := some e.scale }

/-- The derived fields, if all four are set. -/
def evaluation? (a : Account) : Option Evaluation := do
  let priority ← a.priority
  let nextAction ← a.nextAction
  let delinquency ← a.delinquency
  let scale ← a.scale
  some ⟨priority, nextAction, delinquency, scale⟩

/-- An account without an identity is known by its number. -/
def identified (a : Account) : Account :=
  if a.id = "" then { a with id := a.number } else a

end Account

end Dunning
