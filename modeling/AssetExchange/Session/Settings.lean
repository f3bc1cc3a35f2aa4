import AssetExchange.Error
import AssetExchange.PropertyValue

/-!
# Session settings

The selection of a manager and the settings it is to be prepared with. For storage
the two are flattened into one dictionary, in which the manager's identifier stands
under a key of its own.
-/

namespace AssetExchange

/-- Which manager is selected and with which settings. -/
structure SessionSettings where
  identifier : Option String
  /-- What it is prepared with. -/
  settings : InfoDictionary
deriving DecidableEq

namespace SessionSettings

/-- The key of the manager's identifier in a flattened dictionary. -/
def identifierKey : String := "manager"

def empty : SessionSettings := ⟨none, .empty⟩

/-- Flattens the selection into one dictionary. -/
def toDictionary (selection : SessionSettings) : InfoDictionary :=
  match selection.identifier with
  | none => selection.settings
  | some identifier => selection.settings.insert identifierKey (.text identifier)

/-- Splits a flattened dictionary. The entry for the identifier must be a string. -/
def ofDictionary (dictionary : InfoDictionary) : Outcome SessionSettings :=
  match dictionary.get? identifierKey with
  | none => .ok ⟨none, dictionary.erase identifierKey⟩
  | some (.text identifier) =>
      .ok ⟨some identifier, dictionary.erase identifierKey⟩
  | some other =>
      .error (Fault.settingNotText identifierKey other.kindName).toError

def equals (first second : SessionSettings) : Bool :=
  first.identifier == second.identifier &&
    InfoDictionary.equals first.settings second.settings

def describe (selection : SessionSettings) : String :=
  "SessionSettings \x7b manager_identifier: " ++
    (match selection.identifier with
      | none => "None"
      | some identifier => "Some(" ++ Text.quoted identifier ++ ")") ++
    ", manager_settings: \x7b" ++
    String.intercalate ", " (selection.settings.toList.map fun entry =>
      Text.quoted entry.1 ++ ": " ++ entry.2.describe) ++ "\x7d \x7d"

end SessionSettings
end AssetExchange
