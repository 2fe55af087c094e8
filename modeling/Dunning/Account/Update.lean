import Dunning.Account.Format

/-!
# Account/Update — updates from outside, merged into a list of accounts

An `Update` names an account by its number and brings some of four figures. Blanks around the number
do not count. `merge` applies updates in order, so that the last one to bring a figure decides it,
and tells how many accounts were named and which numbers nobody has.
-/

namespace Dunning

/-- New figures for the account with a number. -/
structure Update where
  number : String
  balance : Option Float
  lastPaymentAmount : Option Float
  lastPaymentDate : Option Date
  daysInArrears : Option Float
  deriving Repr, DecidableEq

namespace Update

/-- An update that brings nothing. -/
def blank : Update := ⟨"", none, none, none, none⟩

/-- The fields of an update. -/
def columns : List (Column Update) :=
  [ .make "account_number" ["accountNumber"] true .text fun v u => { u with number := v },
    .make "outstanding_balance" ["outstandingBalance", "currentBalance"] false
      (.optional .number) fun v u => { u with balance := v },
    .make "last_payment_amount" ["lastPaymentAmount"] false (.optional .number) fun v u =>
      { u with lastPaymentAmount := v },
    .make "last_payment_date" ["lastPaymentDate"] false (.optional .date) fun v u =>
      { u with lastPaymentDate := v },
    .make "days_in_arrears" ["totalDaysInArrears", "daysPastDue"] false (.optional .number)
      fun v u => { u with daysInArrears := v } ]

/-- How an update is read from a document. -/
def record : Record Update := ⟨"struct ImportRecord", blank, columns.map Column.field⟩

/-- Reads a value as an update. -/
def ofJson (j : Json) : Except JsonFault Update :=
  record.read .value j.toTree

/-- Writes an update. -/
def toJson (u : Update) : Json :=
  .object [("account_number", .string u.number),
    ("outstanding_balance", .ofOption Json.ofFloat u.balance),
    ("last_payment_amount", .ofOption Json.ofFloat u.lastPaymentAmount),
    ("last_payment_date", .ofOption (fun d => .string d.text) u.lastPaymentDate),
    ("days_in_arrears", .ofOption Json.ofFloat u.daysInArrears)]

/-- Reads a table of updates. -/
def ofTable (bytes : List UInt8) : Except Csv.Fault (List Update) :=
  Csv.read columns blank bytes

/-! ## Merging -/

/-- The figure an update brings, or the one there is. -/
def orElse {α : Type} (new old : Option α) : Option α :=
  match new with
  | some a => some a
  | none => old

/-- Puts the figures of an update into an account. -/
def apply (u : Update) (a : Account) : Account :=
  { a with
    balance := orElse u.balance a.balance
    lastPaymentAmount := orElse u.lastPaymentAmount a.lastPaymentAmount
    lastPaymentDate := orElse u.lastPaymentDate a.lastPaymentDate
    daysInArrears := orElse u.daysInArrears a.daysInArrears }

/-- The account number an update names. -/
def target (u : Update) : String := Text.trim u.number

/-- An account, and whether an update has named it. -/
structure Entry where
  account : Account
  named : Bool

/-- Applies an update to the first account with its number, if there is one. -/
def applyTo (u : Update) : List Entry → Option (List Entry)
  | [] => none
  | e :: entries =>
    if e.account.number = u.target then some (⟨u.apply e.account, true⟩ :: entries)
    else (u.applyTo entries).map (e :: ·)

/-- Applies updates in order, keeping the numbers nobody has. -/
def applyAll : List Update → List Entry → List Entry × List String
  | [], entries => (entries, [])
  | u :: us, entries =>
    match u.applyTo entries with
    | some entries => applyAll us entries
    | none =>
      let (entries, unmatched) := applyAll us entries
      (entries, u.target :: unmatched)

/-- What a merge did. -/
structure Merge where
  accounts : List Account
  updated : Nat
  unmatched : List String
  deriving Repr, DecidableEq

/-- Merges updates into accounts. -/
def merge (accounts : List Account) (updates : List Update) : Merge :=
  let (entries, unmatched) := applyAll updates (accounts.map fun a => ⟨a, false⟩)
  ⟨entries.map Entry.account, (entries.filter Entry.named).length, unmatched⟩

end Update

end Dunning
