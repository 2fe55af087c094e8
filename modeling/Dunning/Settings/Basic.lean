import Dunning.Settings.EnvFile
import Dunning.Settings.Filter
import Dunning.Settings.Host

/-!
# Settings/Basic — settings out of the environment

Every setting has a default. The port is checked when the settings are read; the host and the log
filter when they are used.
-/

namespace Dunning

open Dunning.Text

/-- The stage of its life a service is in. -/
inductive Stage where
  | development
  | test
  | production
  deriving Repr, DecidableEq

namespace Stage

/-- The stage a text names, blanks and case aside. -/
def ofText (s : String) : Stage :=
  let name := lowerAscii (trim s)
  if name = "prod" ∨ name = "production" then .production
  else if name = "test" ∨ name = "ci" then .test
  else .development

/-- The name of a stage. -/
def label : Stage → String
  | .development => "Development"
  | .test => "Test"
  | .production => "Production"

end Stage

/-- What can be wrong with a setting. -/
inductive SettingFault where
  | badPort
  | badHost
  deriving Repr, DecidableEq

namespace SettingFault

/-- The wording of a fault. -/
def message : SettingFault → String
  | .badPort => "APP_PORT must be a valid u16"
  | .badHost => "APP_HOST must parse to an IPv4 or IPv6 address"

/-- What lies behind a fault. -/
def causes : SettingFault → List String
  | .badPort => []
  | .badHost => ["invalid IP address syntax"]

end SettingFault

/-- A log filter that is refused, with what is wrong with it. -/
structure BadFilter where
  text : String
  fault : FilterFault
  deriving Repr, DecidableEq

/-- The wording of a refusal. -/
def BadFilter.message (b : BadFilter) : String :=
  "invalid log level/filter '" ++ b.text ++ "'"

/-- Settings of the service. -/
structure Settings where
  stage : Stage
  host : String
  port : Nat
  logLevel : String
  rulesPath : Option String
  graphPath : Option String
  accountsPath : Option String
  deriving Repr, DecidableEq

namespace Settings

/-- The variables that settings are read from. -/
def variableNames : List String :=
  ["APP_ENV", "APP_HOST", "APP_PORT", "APP_LOG_LEVEL", "STRATEGY_RULES_PATH", "STRATEGY_GRAPH_PATH",
    "ACCOUNTS_SEED_PATH", "RUST_LOG"]

/-- A port: a number of sixteen bits. -/
def port? (s : String) : Option Nat :=
  match Decimal.integer 10 0 65535 s.toList with
  | .ok n => some n.toNat
  | .error _ => none

/-- The path in a variable, unless it is blank. -/
def path? (env : Environment) (name : String) : Option String :=
  ((env.lookup name).map trim).filter fun path => path != ""

/-- Reads the settings. -/
def load (env : Environment) : Except SettingFault Settings :=
  match port? ((env.lookup "APP_PORT").getD "3000") with
  | none => .error .badPort
  | some port =>
    .ok
      { stage := Stage.ofText ((env.lookup "APP_ENV").getD "development")
        host := (env.lookup "APP_HOST").getD "127.0.0.1"
        port := port
        logLevel := (env.lookup "APP_LOG_LEVEL").getD "info"
        rulesPath := path? env "STRATEGY_RULES_PATH"
        graphPath := path? env "STRATEGY_GRAPH_PATH"
        accountsPath := path? env "ACCOUNTS_SEED_PATH" }

/-- The address to listen on. -/
def address (s : Settings) : Except SettingFault String :=
  if lowerAscii s.host = "localhost" then .ok (Host.localhost.withPort s.port)
  else match Host.parse? s.host with
    | some host => .ok (host.withPort s.port)
    | none => .error .badHost

/-- The log filter in force: that of `RUST_LOG` where it is one, else the log level. -/
def filter (s : Settings) (env : Environment) : Except BadFilter String :=
  let level := match Filter.check s.logLevel with
    | .ok _ => .ok s.logLevel
    | .error fault => .error ⟨s.logLevel, fault⟩
  match env.lookup "RUST_LOG" with
  | some text => match Filter.check text with
    | .ok _ => .ok text
    | .error _ => level
  | none => level

end Settings

end Dunning
