import Dunning.Failure
import Dunning.Graph.Document

/-!
# Startup — a desk out of files

Rules, a graph and accounts may each be given by a path. Rules come first; a graph is saved and made
active; accounts are loaded last, so that what is active by then applies to them.
-/

namespace Dunning

namespace Startup

/-- Reads a file of accounts. -/
def accounts (files : Files) (path : String) : Except ImportFault (List Account) := do
  let opened ← (files path).mapError .file
  let isDocument := Path.isDocument path
  let bytes ← opened.read.mapError (.unreadable isDocument)
  (Account.ofFile isDocument bytes).mapError fun
    | .json fault => .json fault
    | .csv fault => .csv fault

/-- Reads an open document. -/
def document {α : Type} (ofBytes : List UInt8 → Except JsonFault α) (opened : Opened) :
    Except LoadFault α := do
  let bytes ← opened.read.mapError .unreadable
  (ofBytes bytes).mapError .json

/-- Reads a file with a graph. -/
def graph (files : Files) (path : String) : Except LoadFault Graph := do
  let opened ← (files path).mapError .file
  document Graph.ofDocument opened

/-- Reads a file with rules, if there is one. -/
def rules (files : Files) (path : Option String) : Except Failure RuleSet :=
  match path with
  | none => .ok .standard
  | some path => do
    let opened ← (files path).mapError .file
    (document RuleSet.ofDocument opened).mapError .strategy

/-- Who is behind what happens at the start. -/
def trigger : String := "startup"

/-- The store is within reach at the start. -/
def noOutage : Outage := ⟨false, false⟩

/-- A graph as a draft, named after its file. -/
def draft (path : String) (g : Graph) : Draft :=
  ⟨none, (Path.stem? path).getD "startup strategy", "Loaded from " ++ path, g, trigger⟩

/-- The answer of a call, and the desk after it, unless it fails. -/
def succeed {α : Type} (reply : Desk.Reply α) : Except Failure (α × Desk) :=
  match reply with
  | (.ok a, d) => .ok (a, d)
  | (.error fault, _) => .error (.desk fault)

/-- Saves the graph of a file, if there is one, and makes it active. -/
def withGraph (files : Files) (now : Instant) (path : Option String) (d : Desk) :
    Except Failure Desk :=
  match path with
  | none => .ok d
  | some path => do
    let g ← (graph files path).mapError .strategy
    let (saved, d) ← succeed (d.save noOutage trigger now (draft path g))
    let (_, d) ← succeed (d.activate noOutage trigger now saved.id)
    .ok d

/-- Loads the accounts of a file, if there is one. -/
def withAccounts (files : Files) (path : Option String) (d : Desk) : Except Failure Desk :=
  match path with
  | none => .ok d
  | some path => do
    let as ← (accounts files path).mapError .accounts
    let (_, d) ← succeed (d.load noOutage trigger as)
    .ok d

end Startup

/-- The desk that the settings ask for. -/
def Settings.desk (s : Settings) (files : Files) (now : Instant) : Except Failure Desk := do
  let rules ← Startup.rules files s.rulesPath
  let d ← Startup.withGraph files now s.graphPath (Desk.opened rules)
  Startup.withAccounts files s.accountsPath d

end Dunning
