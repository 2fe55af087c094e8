import Dunning.Account.Listing
import Dunning.Graph.Summary
import Dunning.Startup

/-!
# CommandLine — the commands of the program

`Command.parse` reads the arguments from left to right and stops at the first that is wrong or asks
for help. `Command.run` carries a command out; serving goes as far as the address to listen on.
-/

namespace Dunning

/-- What the program is asked to do. -/
inductive Command where
  | serve (host : Option String) (port : Option Nat)
  | classify (accounts : String) (rules : Option String) (asDocument : Bool)
  | evaluate (strategy accounts : String) (asDocument : Bool)
  | validate (strategy : String)
  deriving Repr, DecidableEq

/-- Why no command is carried out. -/
inductive Usage where
  /-- Help or the version was asked for. -/
  | help
  | wrong
  deriving Repr, DecidableEq

/-- The code with which the program then ends. -/
def Usage.code : Usage → UInt32
  | .help => 0
  | .wrong => 2

namespace Command

open Dunning.Text

/-! ## Options -/

/-- What an option takes. -/
inductive Takes where
  | nothing
  | path
  | text
  | port
  deriving Repr, DecidableEq

/-- A port: a number of sixteen bits, after an optional sign. -/
def port? (s : String) : Option Nat :=
  match Decimal.integer 10 (-65535) 65535 s.toList with
  | .ok n => if 0 ≤ n then some n.toNat else none
  | .error _ => none

/-- An option takes this value. -/
def Takes.accepts : Takes → String → Bool
  | .nothing, _ => false
  | .path, s => s != ""
  | .text, _ => true
  | .port, s => (port? s).isSome

/-- An option by its name. -/
structure Spec where
  name : String
  takes : Takes
  deriving Repr, DecidableEq

/-- Options with their values. -/
abbrev Options : Type := List (String × String)

/-- An argument that names an option, rather than a value. -/
def isDashed (arg : String) : Bool :=
  arg.startsWith "-" && arg != "-"

/-- The name of a long option, and the value after an equals sign. -/
def long? (arg : String) : Option (String × Option String) :=
  if arg.startsWith "--" then
    let body := String.ofList (arg.toList.drop 2)
    match splitOnce? '=' body with
    | some (name, value) => some (name, some value)
    | none => some (body, none)
  else none

/-- Adds an option, unless it is there already or its value is wrong. -/
def add (spec : Spec) (value : String) (found : Options) : Except Usage Options :=
  if (found.lookup spec.name).isSome || !spec.takes.accepts value then .error .wrong
  else .ok ((spec.name, value) :: found)

/-- Adds a flag, unless it is there already. -/
def addFlag (name : String) (found : Options) : Except Usage Options :=
  if (found.lookup name).isSome then .error .wrong else .ok ((name, "") :: found)

/-- Reads options. -/
def readOptions (specs : List Spec) (found : Options) : List String → Except Usage Options
  | [] => .ok found
  | "--" :: rest => if rest.isEmpty then .ok found else .error .wrong
  | arg :: rest =>
    match long? arg with
    | none => if arg.startsWith "-h" then .error .help else .error .wrong
    | some ("help", none) => .error .help
    | some (name, value) =>
      match specs.find? fun spec => spec.name == name with
      | none => .error .wrong
      | some spec =>
        match spec.takes, value, rest with
        | .nothing, none, rest => do
          let found ← addFlag name found
          readOptions specs found rest
        | .nothing, some _, _ => .error .wrong
        | _, some value, rest => do
          let found ← add spec value found
          readOptions specs found rest
        | _, none, value :: rest =>
          if isDashed value then .error .wrong
          else do
            let found ← add spec value found
            readOptions specs found rest
        | _, none, [] => .error .wrong

/-- The value of an option that has to be there. -/
def needed (name : String) (found : Options) : Except Usage String :=
  match found.lookup name with
  | some value => .ok value
  | none => .error .wrong

/-! ## Commands -/

/-- The names of the commands. -/
def names : List String := ["serve", "classify", "evaluate", "validate", "help"]

/-- The options of serving. -/
def serveSpecs : List Spec := [⟨"host", .text⟩, ⟨"port", .port⟩]

/-- The options of classifying. -/
def classifySpecs : List Spec := [⟨"accounts", .path⟩, ⟨"rules", .path⟩, ⟨"json", .nothing⟩]

/-- The options of evaluating. -/
def evaluateSpecs : List Spec := [⟨"strategy", .path⟩, ⟨"accounts", .path⟩, ⟨"json", .nothing⟩]

/-- The options of validating. -/
def validateSpecs : List Spec := [⟨"strategy", .path⟩]

/-- Asking for help on at most one command. -/
def helpOn : List String → Except Usage Command
  | [] => .error .help
  | [name] => if names.contains name then .error .help else .error .wrong
  | _ => .error .wrong

/-- Reads the arguments. -/
def parse : List String → Except Usage Command
  | [] => .ok (.serve none none)
  | "serve" :: args => do
    let found ← readOptions serveSpecs [] args
    .ok (.serve (found.lookup "host") ((found.lookup "port").bind port?))
  | "classify" :: args => do
    let found ← readOptions classifySpecs [] args
    .ok (.classify (← needed "accounts" found) (found.lookup "rules")
      (found.lookup "json").isSome)
  | "evaluate" :: args => do
    let found ← readOptions evaluateSpecs [] args
    .ok (.evaluate (← needed "strategy" found) (← needed "accounts" found)
      (found.lookup "json").isSome)
  | "validate" :: args => do
    let found ← readOptions validateSpecs [] args
    .ok (.validate (← needed "strategy" found))
  | "help" :: args => helpOn args
  | ["--"] => .ok (.serve none none)
  | arg :: _ =>
    if arg = "--help" || arg = "--version" || arg.startsWith "-h" || arg.startsWith "-V" then
      .error .help
    else .error .wrong

/-! ## Carrying out -/

/-- What surrounds the program. -/
structure World where
  files : Files
  env : Environment
  now : Instant

/-- The file with variables. -/
def envPath : String := ".env"

/-- The variables, after the file with variables has been read. -/
def World.settled (w : World) : Environment :=
  match w.files envPath with
  | .ok (.file bytes) => EnvFile.apply w.env bytes
  | _ => w.env

/-- A service that is ready to listen. -/
structure Service where
  address : String
  desk : Desk

/-- Prepares serving. -/
def prepare (w : World) (host : Option String) (port : Option Nat) : Except Failure Service := do
  let env := w.settled
  let s ← (Settings.load env).mapError .setting
  let s := { s with host := host.getD s.host, port := port.getD s.port }
  let _ ← (s.filter env).mapError .filter
  let desk ← s.desk w.files w.now
  let address ← s.address.mapError .setting
  .ok ⟨address, desk⟩

/-- The files that a command may read, besides the one with variables. -/
def paths (w : World) : Command → List String
  | .serve _ _ =>
    match Settings.load w.settled with
    | .ok s => [s.rulesPath, s.graphPath, s.accountsPath].filterMap id
    | .error _ => []
  | .classify accounts rules _ => rules.toList ++ [accounts]
  | .evaluate strategy accounts _ => [strategy, accounts]
  | .validate strategy => [strategy]

/-- What a command has come to. -/
inductive Result where
  | printed (text : String)
  | serving (service : Service)

/-- Carries a command out. -/
def run (w : World) : Command → Except Failure Result
  | .serve host port => (prepare w host port).map .serving
  | .classify accounts rules asDocument => do
    let rules ← Startup.rules w.files rules
    let as ← (Startup.accounts w.files accounts).mapError .accounts
    .ok (.printed (Account.listing asDocument ((Strategy.rules rules).reapply as)))
  | .evaluate strategy accounts asDocument => do
    let g ← (Startup.graph w.files strategy).mapError .strategy
    let as ← (Startup.accounts w.files accounts).mapError .accounts
    .ok (.printed (Account.listing asDocument ((Strategy.graph g).reapply as)))
  | .validate strategy => do
    let g ← (Startup.graph w.files strategy).mapError .strategy
    .ok (.printed g.summary)

end Command

end Dunning
