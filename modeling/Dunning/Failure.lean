import Dunning.Desk.Basic
import Dunning.Files
import Dunning.Rule.Document
import Dunning.Settings.Basic

/-!
# Failure — why the program gives up

Each cause keeps what it was caused by in turn, so that a failure can be told in one line or traced
back through its `causes`.
-/

namespace Dunning

/-- Why a document with rules or a graph is refused. -/
inductive LoadFault where
  /-- The file cannot be opened. -/
  | file (fault : FileFault)
  /-- The file cannot be read. -/
  | unreadable (fault : FileFault)
  | json (fault : JsonFault)
  deriving Repr, DecidableEq

namespace LoadFault

/-- The cause of a refusal. -/
def cause : LoadFault → String
  | .file fault => fault.message
  | .unreadable fault => fault.message
  | .json fault => fault.message

/-- The wording of a refusal. -/
def message (f : LoadFault) : String :=
  match f with
  | .file _ => "failed to read strategy document: " ++ f.cause
  | .unreadable _ | .json _ => "invalid strategy document: " ++ f.cause

end LoadFault

/-- Why a file with accounts is refused. -/
inductive ImportFault where
  /-- The file cannot be opened. -/
  | file (fault : FileFault)
  /-- The file cannot be read. -/
  | unreadable (isDocument : Bool) (fault : FileFault)
  | json (fault : JsonFault)
  | csv (fault : Csv.Fault)
  deriving Repr, DecidableEq

namespace ImportFault

/-- The cause of a refusal. -/
def cause : ImportFault → String
  | .file fault => fault.message
  | .unreadable _ fault => fault.message
  | .json fault => fault.message
  | .csv fault => fault.message

/-- The wording of a refusal. -/
def message (f : ImportFault) : String :=
  match f with
  | .file _ => "failed to read import file: " ++ f.cause
  | .unreadable true _ | .json _ => "failed to parse JSON import: " ++ f.cause
  | .unreadable false _ | .csv _ => "failed to parse CSV import: " ++ f.cause

end ImportFault

/-- Why the program gives up. -/
inductive Failure where
  | setting (fault : SettingFault)
  | filter (fault : BadFilter)
  | file (fault : FileFault)
  | accounts (fault : ImportFault)
  | strategy (fault : LoadFault)
  | desk (fault : DeskFault)
  deriving Repr, DecidableEq

namespace Failure

/-- A failure in one line. -/
def message : Failure → String
  | .setting fault => "configuration error: " ++ fault.message
  | .filter fault => "telemetry error: " ++ fault.message
  | .file fault => "io error: " ++ fault.message
  | .accounts fault => "import error: " ++ fault.message
  | .strategy fault => "strategy error: " ++ fault.message
  | .desk fault => fault.message

/-- What a failure was caused by, the nearest cause first. -/
def causes : Failure → List String
  | .setting fault => fault.message :: fault.causes
  | .filter fault => [fault.message, fault.fault.message]
  | .file fault => [fault.message]
  | .accounts fault => [fault.message, fault.cause]
  | .strategy fault => [fault.message, fault.cause]
  | .desk fault => [fault.message]

/-- The status of a response that reports a failure. -/
def status : Failure → Nat
  | .accounts _ | .strategy _ => 400
  | .desk .accountNotFound => 404
  | .desk (.library (.notFound _)) => 404
  | .setting _ | .filter _ | .file _ | .desk (.unavailable _) => 500

end Failure

end Dunning
