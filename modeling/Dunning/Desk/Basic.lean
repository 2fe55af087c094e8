import Dunning.Account.Update
import Dunning.Graph.Validation
import Dunning.Library.Basic
import Dunning.Strategy

/-!
# Desk/Basic — the collections desk

A desk has rules, a library of saved graphs, and a queue of accounts. The active graph drives the
queue, or the rules where no graph is active; every change to the queue or to the active strategy
applies it again. The store behind the queue may be out of reach: an `Outage` says what of it fails.
A call that fails then leaves the queue as it was, but what it has changed in the library stays.
-/

namespace Dunning

/-- What of the store behind the queue is out of reach. -/
structure Outage where
  reads : Bool
  writes : Bool
  deriving Repr, DecidableEq

/-- Why the desk refuses. -/
inductive DeskFault where
  | accountNotFound
  | unavailable (what : String)
  | library (fault : LibraryFault)
  deriving Repr, DecidableEq

namespace DeskFault

/-- Reading fails. -/
def readsOffline : DeskFault := .unavailable "reads offline"

/-- Writing fails. -/
def writesOffline : DeskFault := .unavailable "writes offline"

/-- The wording of a fault. -/
def message : DeskFault → String
  | .accountNotFound => "record not found"
  | .unavailable what => "repository unavailable: " ++ what
  | .library fault => fault.message

end DeskFault

/-- What applying the active strategy did. -/
structure Report where
  strategy : String
  strategyId : Option String
  tally : Tally
  triggeredBy : String
  deriving Repr, DecidableEq

/-- What an import did. Where it named no account, nothing was applied. -/
structure ImportReport where
  received : Nat
  updated : Nat
  unmatched : List String
  reevaluation : Option Report
  deriving Repr, DecidableEq

/-- What a graph would recommend for an account, and what is wrong with the graph. -/
structure TrialReport where
  accountId : String
  evaluation : Evaluation
  issues : List Issue
  deriving Repr, DecidableEq

/-- A collections desk. -/
structure Desk where
  rules : RuleSet
  library : Library
  queue : List Account
  deriving Repr, DecidableEq

namespace Desk

/-- A desk with nothing but rules. -/
def opened (rules : RuleSet) : Desk := ⟨rules, .empty, []⟩

/-- What drives the queue, with its id in the library. -/
def activeStrategy (d : Desk) : Strategy × Option String :=
  match d.library.active? with
  | some saved => (.graph saved.graph, some saved.id)
  | none => (.rules d.rules, none)

/-- The first account with this id in a queue. -/
def find? (queue : List Account) (id : String) : Option Account :=
  queue.find? fun a => a.id == id

/-! ## Reading -/

/-- The queue. -/
def accounts (d : Desk) (o : Outage) : Except DeskFault (List Account) :=
  if o.reads then .error .readsOffline else .ok d.queue

/-- The account with this id. -/
def account (d : Desk) (o : Outage) (id : String) : Except DeskFault Account :=
  if o.reads then .error .readsOffline
  else match find? d.queue id with
    | some a => .ok a
    | none => .error .accountNotFound

/-- Tries a graph on an account; the desk has no part in it. -/
def trial (g : Graph) (a : Account) : TrialReport :=
  ⟨a.id, g.evaluate a, g.issues⟩

/-! ## Changing -/

/-- The answer of a call, and the desk after it. -/
abbrev Reply (α : Type) : Type := Except DeskFault α × Desk

/-- Applies the active strategy to accounts and stores them as the queue. -/
def store (d : Desk) (o : Outage) (triggeredBy : String) (accounts : List Account) :
    Reply Report :=
  let (strategy, id) := d.activeStrategy
  if o.writes then (.error .writesOffline, d)
  else
    (.ok ⟨strategy.label, id, strategy.tally accounts, triggeredBy⟩,
      { d with queue := strategy.reapply accounts })

/-- Applies the active strategy to the queue. -/
def apply (d : Desk) (o : Outage) (triggeredBy : String) : Reply Report :=
  if o.reads then (.error .readsOffline, d) else d.store o triggeredBy d.queue

/-- Replaces the queue. -/
def load (d : Desk) (o : Outage) (triggeredBy : String) (accounts : List Account) :
    Reply Report :=
  d.store o triggeredBy accounts

/-- Merges updates into the queue. -/
def importUpdates (d : Desk) (o : Outage) (triggeredBy : String) (updates : List Update) :
    Reply ImportReport :=
  if o.reads then (.error .readsOffline, d)
  else
    let merge := Update.merge d.queue updates
    let report := ImportReport.mk updates.length merge.updated merge.unmatched
    if merge.updated = 0 then (.ok (report none), d)
    else
      let (reply, d) := d.store o triggeredBy merge.accounts
      (reply.map fun r => report (some r), d)

/-- Saves a draft. A new version of the active graph is applied to the queue. -/
def save (d : Desk) (o : Outage) (triggeredBy : String) (now : Instant) (draft : Draft) :
    Reply SavedStrategy :=
  let (saved, library) := d.library.save draft now
  let d := { d with library := library }
  if saved.isActive then
    let (reply, d) := d.apply o triggeredBy
    (reply.map fun _ => saved, d)
  else (.ok saved, d)

/-- Makes a saved graph drive the queue. -/
def activate (d : Desk) (o : Outage) (triggeredBy : String) (now : Instant) (id : String) :
    Reply (SavedStrategy × Report) :=
  match d.library.activate id now with
  | .error fault => (.error (.library fault), d)
  | .ok (saved, library) =>
    let (reply, d) := { d with library := library }.apply o triggeredBy
    (reply.map fun report => (saved, report), d)

/-- Makes the rules drive the queue. -/
def deactivate (d : Desk) (o : Outage) (triggeredBy : String) (now : Instant) : Reply Report :=
  { d with library := (d.library.deactivate now).2 }.apply o triggeredBy

end Desk

end Dunning
