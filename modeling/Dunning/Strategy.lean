import Dunning.Graph.Walk
import Dunning.Rule.Standard

/-!
# Strategy — what drives a queue, and applying it to one

A strategy is a set of rules or a graph. Applying it to accounts replaces their derived fields and
nothing else, and counts those for which one of the four differs from before.
-/

namespace Dunning

/-- What drives a queue. -/
inductive Strategy where
  | rules (rs : RuleSet)
  | graph (g : Graph)
  deriving Repr, DecidableEq

/-- How many accounts a strategy has been applied to, and how many of them it changed. -/
structure Tally where
  evaluated : Nat
  changed : Nat
  deriving Repr, DecidableEq

namespace Strategy

/-- The strategy where none is given. -/
def standard : Strategy := .rules .standard

/-- The name of the kind. -/
def label : Strategy → String
  | .rules _ => "rules"
  | .graph _ => "graph"

/-- What a strategy recommends for an account. -/
def evaluate (s : Strategy) (a : Account) : Evaluation :=
  match s with
  | .rules rs => rs.evaluate a
  | .graph g => g.evaluate a

/-- An account with what a strategy recommends for it. -/
def refresh (s : Strategy) (a : Account) : Account :=
  a.withEvaluation (s.evaluate a)

/-- A strategy recommends something else than the account says, or the account says nothing. -/
def changes (s : Strategy) (a : Account) : Bool :=
  a.evaluation? != some (s.evaluate a)

/-- Applies a strategy to accounts. -/
def reapply (s : Strategy) (accounts : List Account) : List Account :=
  accounts.map s.refresh

/-- Counts what applying a strategy does. -/
def tally (s : Strategy) (accounts : List Account) : Tally :=
  ⟨accounts.length, accounts.countP s.changes⟩

end Strategy

end Dunning
