import AssetExchange.Config.Loading
import AssetExchange.Toml.Printer

/-!
# Saving configurations

The text of a configuration file has a section for the manager, one for the manager's
settings and one for logging; without a manager only the last. `AppConfig.save` writes
it and makes the directories that the file goes into.
-/

namespace AssetExchange

/-- The entries of a dictionary, one to a line, in the order of their keys. -/
def InfoDictionary.toTomlEntries (settings : InfoDictionary) : List String :=
  settings.toList.map fun (key, value) => Toml.renderEntry key value

def ManagerConfig.toTomlSections (config : ManagerConfig) : List String :=
  [Toml.renderSection "manager" [Toml.renderEntry "identifier" (.text config.identifier)],
    Toml.renderSection "manager.settings" (InfoDictionary.toTomlEntries config.settings)]

def LoggingConfig.toTomlSection (config : LoggingConfig) : String :=
  Toml.renderSection "logging"
    [Toml.renderEntry "level" (.text config.level),
      Toml.renderEntry "format" (.text config.format.name)]

namespace AppConfig

/-- The text of the file of a configuration; an empty line stands between sections. -/
def toToml (config : AppConfig) : String :=
  String.intercalate "\n" <|
    (match config.manager with
      | none => []
      | some manager => manager.toTomlSections) ++
    [config.logging.toTomlSection]

def save (surroundings : Surroundings) (path : String) (config : AppConfig) :
    Except ConfigError Surroundings :=
  let tree := surroundings.tree
  match tree.save surroundings.working (TreePath.ofText tree.top path) config.toToml with
  | .ok tree => .ok { surroundings with tree }
  | .error problem => .error (.write path problem)

end AppConfig
end AssetExchange
