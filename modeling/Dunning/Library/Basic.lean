import Dunning.Calendar.Instant
import Dunning.Graph.Basic

/-!
# Library/Basic — saved strategies

A library keeps graphs under ids, each with a status and a version. Saving under an id that exists
makes a new version and keeps the status; saving without an id finds a free one. At most one entry
is active: activating one demotes the other.
-/

namespace Dunning

/-- Where a saved strategy stands. -/
inductive Status where
  | draft
  | active
  | inactive
  deriving Repr, DecidableEq

namespace Status

/-- The name of a status. -/
def label : Status → String
  | .draft => "draft"
  | .active => "active"
  | .inactive => "inactive"

/-- The name of a status, as a heading. -/
def heading : Status → String
  | .draft => "Draft"
  | .active => "Active"
  | .inactive => "Inactive"

end Status

/-- A graph to be saved. -/
structure Draft where
  id : Option String
  name : String
  description : String
  graph : Graph
  createdBy : String
  deriving Repr, DecidableEq

/-- A saved graph. -/
structure SavedStrategy where
  id : String
  name : String
  description : String
  graph : Graph
  status : Status
  version : Nat
  createdAt : Instant
  updatedAt : Instant
  createdBy : String
  deriving Repr, DecidableEq

/-- Why the library refuses. -/
inductive LibraryFault where
  | notFound (id : String)
  deriving Repr, DecidableEq

/-- The wording of a fault. -/
def LibraryFault.message : LibraryFault → String
  | .notFound id => "strategy " ++ id ++ " not found"

namespace SavedStrategy

/-- A new version. -/
def revise (s : SavedStrategy) (d : Draft) (now : Instant) : SavedStrategy :=
  { s with
    name := d.name
    description := d.description
    graph := d.graph
    version := s.version + 1
    updatedAt := now }

/-- The first version of a draft. -/
def first (id : String) (d : Draft) (now : Instant) : SavedStrategy :=
  ⟨id, d.name, d.description, d.graph, .draft, 1, now, now, d.createdBy⟩

/-- The strategy is active. -/
def isActive (s : SavedStrategy) : Bool := s.status == .active

/-- Makes a strategy active. -/
def promote (now : Instant) (s : SavedStrategy) : SavedStrategy :=
  { s with status := .active, updatedAt := now }

/-- Makes an active strategy inactive. -/
def demote (now : Instant) (s : SavedStrategy) : SavedStrategy :=
  if s.isActive then { s with status := .inactive, updatedAt := now } else s

end SavedStrategy

/-- Saved strategies in the order in which they came, and the last number used for an id. -/
structure Library where
  entries : List SavedStrategy
  sequence : Nat
  deriving Repr, DecidableEq

namespace Library

/-- The library without entries. -/
def empty : Library := ⟨[], 0⟩

/-- The entry with this id. -/
def get? (l : Library) (id : String) : Option SavedStrategy :=
  l.entries.find? fun s => s.id == id

/-- The active entry. -/
def active? (l : Library) : Option SavedStrategy :=
  l.entries.find? SavedStrategy.isActive

/-- The id for a number: four digits or more. -/
def strategyId (n : Nat) : String := "strategy_" ++ Decimal.paddedText 4 n

/-- The first number from `n` on whose id is free, among the next `fuel` and the one after them. -/
def freeNumber (l : Library) : Nat → Nat → Nat
  | 0, n => n
  | fuel + 1, n => if (l.get? (strategyId n)).isNone then n else freeNumber l fuel (n + 1)

/-- The number of the next id. As many tries as there are entries are enough. -/
def nextNumber (l : Library) : Nat :=
  l.freeNumber l.entries.length (l.sequence + 1)

/-- Puts an entry at the end. -/
def push (l : Library) (s : SavedStrategy) : Library :=
  { l with entries := l.entries ++ [s] }

/-- Revises the entry with this id, if there is one. -/
def reviseFirst (id : String) (d : Draft) (now : Instant) :
    List SavedStrategy → Option (SavedStrategy × List SavedStrategy)
  | [] => none
  | s :: entries =>
    if s.id = id then some (s.revise d now, s.revise d now :: entries)
    else (reviseFirst id d now entries).map fun (saved, rest) => (saved, s :: rest)

/-- Saves a draft and gives the saved strategy. -/
def save (l : Library) (d : Draft) (now : Instant) : SavedStrategy × Library :=
  match d.id with
  | some id =>
    match reviseFirst id d now l.entries with
    | some (saved, entries) => (saved, { l with entries := entries })
    | none =>
      let saved := SavedStrategy.first id d now
      (saved, l.push saved)
  | none =>
    let number := l.nextNumber
    let saved := SavedStrategy.first (strategyId number) d now
    (saved, { l with sequence := number }.push saved)

/-- Promotes the entry with this id, if there is one, and demotes all others. -/
def promoteFirst (id : String) (now : Instant) :
    List SavedStrategy → Option (SavedStrategy × List SavedStrategy)
  | [] => none
  | s :: entries =>
    if s.id = id then some (s.promote now, s.promote now :: entries.map (SavedStrategy.demote now))
    else (promoteFirst id now entries).map fun (saved, rest) => (saved, s.demote now :: rest)

/-- Makes an entry the active one. -/
def activate (l : Library) (id : String) (now : Instant) :
    Except LibraryFault (SavedStrategy × Library) :=
  match promoteFirst id now l.entries with
  | some (saved, entries) => .ok (saved, { l with entries := entries })
  | none => .error (.notFound id)

/-- Demotes the first active entry. -/
def demoteFirst (now : Instant) : List SavedStrategy → List SavedStrategy
  | [] => []
  | s :: entries =>
    if s.isActive then s.demote now :: entries else s :: demoteFirst now entries

/-- Leaves no entry active, and tells which one was. -/
def deactivate (l : Library) (now : Instant) : Option String × Library :=
  (l.active?.map SavedStrategy.id, { l with entries := demoteFirst now l.entries })

end Library

end Dunning
