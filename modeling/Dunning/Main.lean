import Dunning.CommandLine
import Std.Time.DateTime.Timestamp

/-!
# Main — the program

The outer layer: it reads the files and variables that a command asks for, carries the command out
and prints what it has come to. Serving ends with the address to listen on.
-/

namespace Dunning

/-- The wording of the commands. -/
def usageText : String :=
  "Usage: dunning [COMMAND]\n\nCommands:\n" ++
    "  serve [--host HOST] [--port PORT]\n" ++
    "  classify --accounts FILE [--rules FILE] [--json]\n" ++
    "  evaluate --strategy FILE --accounts FILE [--json]\n" ++
    "  validate --strategy FILE"

/-- Why the system refused a file. -/
def FileFault.ofSystem : IO.Error → FileFault
  | .noFileOrDirectory _ _ _ => .notFound
  | .inappropriateType _ 20 _ => .notDirectory
  | .inappropriateType _ 21 _ => .isDirectory
  | error => .other (toString error)

/-- Reads a file. -/
def readFile (path : String) : IO (Except FileFault Opened) := do
  match ← (IO.FS.readBinFile path).toBaseIO with
  | .ok bytes => return .ok (.file bytes.toList)
  | .error error =>
    match FileFault.ofSystem error with
    | .isDirectory => return .ok .directory
    | fault => return .error fault

/-- Reads files, in order. -/
def readFiles (paths : List String) : IO Files := do
  let known ← paths.mapM fun path => do return (path, ← readFile path)
  return fun path => (known.lookup path).getD (.error .notFound)

/-- Reads the variables that settings are read from. -/
def readVariables : IO Environment :=
  Settings.variableNames.filterMapM fun name => do
    return (← IO.getEnv name).map fun value => (name, value)

/-- The present. -/
def presentTime : IO Instant := do
  return ⟨(← Std.Time.Timestamp.now).toMillisecondsSinceUnixEpoch.val⟩

/-- Reads what a command needs. -/
def readWorld (command : Command) : IO Command.World := do
  let start : Command.World := ⟨← readFiles [Command.envPath], ← readVariables, ← presentTime⟩
  return { start with files := ← readFiles (Command.envPath :: command.paths start) }

/-- Carries out what the arguments ask for. The code is `0` when it was carried out, `1` when it
failed and `2` when the arguments are wrong. -/
def execute (args : List String) : IO UInt32 := do
  match Command.parse args with
  | .error usage =>
    if usage = .help then IO.println usageText else IO.eprintln usageText
    return usage.code
  | .ok command =>
    match command.run (← readWorld command) with
    | .ok (.printed text) =>
      IO.print text
      return 0
    | .ok (.serving service) =>
      IO.println service.address
      return 0
    | .error failure =>
      IO.eprintln ("application error: " ++ failure.message)
      return 1

end Dunning

def main (args : List String) : IO UInt32 :=
  Dunning.execute args
