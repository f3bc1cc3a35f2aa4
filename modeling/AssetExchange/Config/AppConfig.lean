import AssetExchange.Log.Message
import AssetExchange.PropertyValue
import AssetExchange.Text.Blank

/-!
# Application configuration

What a host application is configured with: optionally a manager with its settings,
and how it logs. `AppConfig.validate` says which configurations are acceptable and
otherwise what is wrong; the manager's identifier is looked at before the log level.
-/

namespace AssetExchange

inductive LogFormat
  | pretty
  /-- One document value for each event. -/
  | json
deriving DecidableEq

namespace LogFormat

def name : LogFormat → String
  | pretty => "pretty"
  | json => "json"

instance : Enumerated LogFormat where
  values := [pretty, json]
  name := name
  mem_values := by intro value; cases value <;> decide
  name_injective := by intro first second; cases first <;> cases second <;> decide

end LogFormat

structure ManagerConfig where
  identifier : String
  settings : InfoDictionary
deriving DecidableEq

structure LoggingConfig where
  /-- The least level that is logged. -/
  level : String
  format : LogFormat
deriving DecidableEq

structure AppConfig where
  /-- The manager that is used by default, if any. -/
  manager : Option ManagerConfig
  logging : LoggingConfig
deriving DecidableEq

/-- Equality of managers' configurations, by numerical comparison of settings. -/
def ManagerConfig.equals (first second : ManagerConfig) : Bool :=
  first.identifier == second.identifier &&
    InfoDictionary.equals first.settings second.settings

namespace LoggingConfig

def default : LoggingConfig := ⟨"info", .pretty⟩

end LoggingConfig

/-- Why a configuration is not acceptable. -/
inductive ConfigProblem
  /-- The manager's identifier has nothing but blanks. -/
  | emptyIdentifier
  | unknownLevel (level : String)
deriving DecidableEq

namespace AppConfig

def default : AppConfig := ⟨none, .default⟩

def levels : List String := ["trace", "debug", "info", "warn", "error"]

/-- The first thing that is wrong with a configuration. -/
def problem? (config : AppConfig) : Option ConfigProblem :=
  if config.manager.any fun manager => (Text.trim manager.identifier).isEmpty then
    some .emptyIdentifier
  else if levels.contains config.logging.level then none
  else some (.unknownLevel config.logging.level)

def validate (config : AppConfig) : Except ConfigProblem Unit :=
  match config.problem? with
  | some problem => .error problem
  | none => .ok ()

/-- A configuration for trying a manager out: debug messages and no settings. -/
def trial (identifier : String) : AppConfig :=
  ⟨some ⟨identifier, .empty⟩, { LoggingConfig.default with level := "debug" }⟩

def equals (first second : AppConfig) : Bool :=
  first.logging == second.logging &&
    match first.manager, second.manager with
    | none, none => true
    | some left, some right => left.equals right
    | _, _ => false

end AppConfig

def ConfigProblem.message : ConfigProblem → String
  | .emptyIdentifier => "Manager identifier cannot be empty"
  | .unknownLevel level =>
      "Invalid log level '" ++ level ++ "', must be one of: " ++
        String.intercalate ", " AppConfig.levels

end AssetExchange
