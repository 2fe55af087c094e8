import Dunning.Account.Format

/-!
# Account/Listing — accounts for a reader

A listing is either a document, with one member a line, or a table with a heading and a count below.
Every column has a planned width; an entry that needs more pushes the rest of its own line out.
-/

namespace Dunning.Account

open Dunning.Text Dunning.Decimal

/-- A line of the table. -/
def line (number balance days priority state action : String) : String :=
  padRight 14 number ++ " " ++ padLeft ' ' 14 balance ++ " " ++ padLeft ' ' 6 days ++ " " ++
    padLeft ' ' 9 priority ++ "  " ++ padRight 10 state ++ " " ++ action ++ "\n"

/-- The priority, with the direction in which it grows more urgent. -/
def priorityText (a : Account) : String :=
  match a.priority, a.scale with
  | some n, some .lowerIsUrgent => intText n.toInt ++ " (lo)"
  | some n, some .higherIsUrgent => intText n.toInt ++ " (hi)"
  | some n, none => intText n.toInt
  | none, _ => "-"

/-- The line of an account; a dash stands for what is unset. -/
def listed (a : Account) : String :=
  line a.number ((a.balance.map (fixed 2)).getD "-")
    ((a.daysInArrears.map Layout.plain.write).getD "-") a.priorityText
    ((a.delinquency.map Delinquency.label).getD "-") (a.nextAction.getD "-")

/-- Accounts as a table. -/
def table (accounts : List Account) : String :=
  line "ACCOUNT" "BALANCE" "DAYS" "PRIORITY" "STATE" "NEXT ACTION" ++
    String.join (accounts.map listed) ++ natText accounts.length ++ " account(s)\n"

/-- Accounts as a document. -/
def document (accounts : List Account) : String :=
  (Json.array (accounts.map toJson)).pretty ++ "\n"

/-- Accounts as a document or as a table. -/
def listing (asDocument : Bool) (accounts : List Account) : String :=
  if asDocument then document accounts else table accounts

end Dunning.Account
