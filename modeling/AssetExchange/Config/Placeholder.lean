import AssetExchange.Config.AppConfig
import AssetExchange.Text.Piece

/-!
# The directory of a configuration file

A string setting may name the directory of the configuration file that it comes from by
a placeholder. `AppConfig.expand` puts a directory in place of every occurrence and
leaves everything else as it is.
-/

namespace AssetExchange

def directoryPlaceholder : String := "$\x7bconfig_dir\x7d"

/-- Puts a directory in place of every placeholder in a string. -/
def PropertyValue.expand (directory : String) : PropertyValue → PropertyValue
  | .text value =>
      .text (String.ofList
        (Text.replaceAll directoryPlaceholder.toList directory.toList value.toList))
  | other => other

def InfoDictionary.expand (directory : String) (settings : InfoDictionary) :
    InfoDictionary :=
  settings.map (PropertyValue.expand directory)

def ManagerConfig.expand (directory : String) (config : ManagerConfig) : ManagerConfig :=
  { config with settings := InfoDictionary.expand directory config.settings }

/-- Puts a directory, if one is known, in place of every placeholder in the settings. -/
def AppConfig.expand (directory : Option String) (config : AppConfig) : AppConfig :=
  match directory with
  | none => config
  | some directory =>
      { config with manager := config.manager.map (ManagerConfig.expand directory) }

/-- Anything but a string stays as it is. -/
theorem PropertyValue.expand_of_not_text (directory : String) (value : PropertyValue)
    (other : value.text? = none) : value.expand directory = value := by
  cases value <;> simp_all [PropertyValue.text?, PropertyValue.expand]

end AssetExchange
