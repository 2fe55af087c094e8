import Dunning.Account.Basic
import Dunning.Csv.Table
import Dunning.Json.Parser

/-!
# Account/Format — accounts in documents and tables

Every field goes by one name in what is written and by several in what is read: queue exports and
case exports spell the same figures differently. `Account.columns` lists the fields for both kinds
of input, `Account.toJson` writes them in the same order.
-/

namespace Dunning.Account

/-- The fields of an account, in the order in which they are written. -/
def columns : List (Column Account) :=
  [ .make "id" [] false .text fun v a => { a with id := v },
    .make "account_number" ["accountNumber"] false .text fun v a => { a with number := v },
    .make "customer_id" ["customerId"] false (.optional .text) fun v a =>
      { a with customerId := v },
    .make "customer_name" ["customerName"] false .text fun v a => { a with customerName := v },
    .make "outstanding_balance" ["outstandingBalance", "currentBalance"] false
      (.optional .number) fun v a => { a with balance := v },
    .make "original_amount" ["originalAmount", "originalDebtAmount"] false (.optional .number)
      fun v a => { a with originalAmount := v },
    .make "last_payment_amount" ["lastPaymentAmount"] false (.optional .number) fun v a =>
      { a with lastPaymentAmount := v },
    .make "last_payment_date" ["lastPaymentDate"] false (.optional .date) fun v a =>
      { a with lastPaymentDate := v },
    .make "days_in_arrears" ["totalDaysInArrears", "daysPastDue"] false (.optional .number)
      fun v a => { a with daysInArrears := v },
    .make "duration_in_collections" ["durationInCollections"] false (.optional .uint32)
      fun v a => { a with daysInCollection := v },
    .make "delinquency_band" ["delinquencyBand"] false (.optional .text) fun v a =>
      { a with band := v },
    .make "debt_category" ["debtCategory"] false (.optional .text) fun v a =>
      { a with category := v },
    .make "status" [] false (.optional .text) fun v a => { a with status := v },
    .make "priority" [] false (.optional .int32) fun v a => { a with priority := v },
    .make "next_action" ["nextAction"] false (.optional .text) fun v a =>
      { a with nextAction := v },
    .make "delinquency_state" ["delinquencyState"] false
      (.optional (.oneOf Delinquency.choices)) fun v a => { a with delinquency := v },
    .make "priority_scale" ["priorityScale"] false (.optional (.oneOf PriorityScale.choices))
      fun v a => { a with scale := v } ]

/-- How an account is read from a document. -/
def record : Record Account := ⟨"struct Account", blank, columns.map Column.field⟩

/-- A member that is left out where the value is unset. -/
def memberIfSet (key : String) : Option String → List (String × Json)
  | some s => [(key, .string s)]
  | none => []

/-- The members of a written account. -/
def members (a : Account) : List (String × Json) :=
  [("id", .string a.id), ("account_number", .string a.number)] ++
    memberIfSet "customer_id" a.customerId ++
    [("customer_name", .string a.customerName),
      ("outstanding_balance", .ofOption Json.ofFloat a.balance),
      ("original_amount", .ofOption Json.ofFloat a.originalAmount),
      ("last_payment_amount", .ofOption Json.ofFloat a.lastPaymentAmount),
      ("last_payment_date", .ofOption (fun d => .string d.text) a.lastPaymentDate),
      ("days_in_arrears", .ofOption Json.ofFloat a.daysInArrears),
      ("duration_in_collections", .ofOption (fun n => .integer n.toNat) a.daysInCollection)] ++
    memberIfSet "delinquency_band" a.band ++
    memberIfSet "debt_category" a.category ++
    memberIfSet "status" a.status ++
    [("priority", .ofOption (fun n => .integer n.toInt) a.priority),
      ("next_action", .ofOption .string a.nextAction),
      ("delinquency_state", .ofOption Delinquency.toJson a.delinquency),
      ("priority_scale", .ofOption PriorityScale.toJson a.scale)]

/-- Writes an account. -/
def toJson (a : Account) : Json := .object a.members

/-- Reads a value as an account. -/
def ofJson (j : Json) : Except JsonFault Account :=
  record.read .value j.toTree

/-- What can be wrong with a file of accounts. -/
inductive FileFault where
  | json (fault : JsonFault)
  | csv (fault : Csv.Fault)
  deriving Repr, DecidableEq

/-- Reads a document that lists accounts. -/
def ofDocument (bytes : List UInt8) : Except JsonFault (List Account) := do
  let d := Json.Document.parse (Text.Utf8.glyphs bytes)
  let accounts ← Shape.list record.read .text d.tree
  d.finish (accounts.map identified)

/-- Reads a table of accounts. -/
def ofTable (bytes : List UInt8) : Except Csv.Fault (List Account) :=
  (Csv.read columns blank bytes).map fun accounts => accounts.map identified

/-- Reads a file of accounts: a document, if its name says so, else a table. -/
def ofFile (isDocument : Bool) (bytes : List UInt8) : Except FileFault (List Account) :=
  if isDocument then (ofDocument bytes).mapError .json else (ofTable bytes).mapError .csv

end Dunning.Account
