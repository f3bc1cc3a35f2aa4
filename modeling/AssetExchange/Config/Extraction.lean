import AssetExchange.Binary64.Decimal
import AssetExchange.Config.AppConfig
import AssetExchange.Config.Document
import AssetExchange.Text.Quoted
import AssetExchange.Word

/-!
# Configurations from trees

`AppConfig.extract` reads a configuration from a tree of values, and `toDocument` is the
tree of a configuration. What a tree lacks takes its default, and fields that mean
nothing are passed over. A part that cannot be read is reported with the path of keys
that leads to it; fields are read in ascending order of their keys. A table with known
fields may also be given as a list of them in declaration order.
-/

namespace AssetExchange

/-! ## Problems -/

/-- Why a part of a tree is not what it should be. -/
inductive ExtractionProblem
  | wrongKind (found : Document) (expected : String)
  | wrongLength (length : Nat) (expected : String)
  | unknownName (name : String) (known : List String)
  | missingField (name : String)
  | noPropertyValue
  | malformedFile

/-- A problem and the path of keys to it. -/
structure ExtractionError where
  path : List String
  problem : ExtractionProblem

/-- How messages show a value that was found; a character looks like a string. -/
def Document.describe : Document → String
  | bool value => "bool " ++ (if value then "true" else "false")
  | signed value => "signed int " ++ "`" ++ toString value ++ "`"
  | unsigned value => "unsigned int " ++ "`" ++ toString value ++ "`"
  | float value => "float " ++ "`" ++ value.positional ++ "`"
  | text value => "string " ++ Text.quoted value
  | character value => "string " ++ Text.quoted (String.singleton value)
  | list _ => "sequence"
  | table _ => "map"

namespace ExtractionProblem

def marked (name : String) : String := "`" ++ name ++ "`"

def oneOf : List String → String
  | [] => "none"
  | [only] => marked only
  | [first, second] => marked first ++ " or " ++ marked second
  | names => "one of " ++ String.intercalate ", " (names.map marked)

def message : ExtractionProblem → String
  | wrongKind found expected =>
      "invalid type: found " ++ found.describe ++ ", expected " ++ expected
  | wrongLength length expected =>
      "invalid length " ++ toString length ++ ", expected " ++ expected
  | unknownName name known =>
      "unknown variant: found " ++ marked name ++ ", expected " ++ marked (oneOf known)
  | missingField name => "missing field " ++ marked name
  | noPropertyValue => "data did not match any variant of untagged enum PropertyValue"
  | malformedFile => "TOML parse error"

def kindName : ExtractionProblem → String
  | wrongKind _ _ => "InvalidType"
  | wrongLength _ _ => "InvalidLength"
  | unknownName _ _ => "UnknownVariant"
  | missingField _ => "MissingField"
  | noPropertyValue | malformedFile => "Message"

end ExtractionProblem

/-- A reader of a part of a tree. -/
abbrev Extractor (alpha : Type) := Document → Except ExtractionError alpha

namespace Extractor

variable {alpha : Type}

def fail (problem : ExtractionProblem) : Except ExtractionError alpha :=
  .error ⟨[], problem⟩

/-- Reads a part below a key, which leads the path of any problem there. -/
def below (key : String) (extract : Extractor alpha) : Extractor alpha := fun part =>
  match extract part with
  | .ok value => .ok value
  | .error error => .error { error with path := key :: error.path }

def field? (key : String) (extract : Extractor alpha)
    (fields : List (String × Document)) : Except ExtractionError (Option alpha) :=
  match Entries.get? key fields with
  | none => .ok none
  | some part => (below key extract part).map some

def item? (index : Nat) (extract : Extractor alpha) (items : List Document) :
    Except ExtractionError (Option alpha) :=
  match items[index]? with
  | none => .ok none
  | some part => (below (toString index) extract part).map some

/-- Reads a string; a character is one, too. -/
def text : Extractor String
  | .text value => .ok value
  | .character value => .ok (String.singleton value)
  | other => fail (.wrongKind other "a string")

/-- Reads the value of every field, in the order of the keys. -/
def entries (extract : Extractor alpha) :
    List (String × Document) → Except ExtractionError (List (String × alpha))
  | [] => .ok []
  | (key, part) :: rest => do
      let value ← below key extract part
      let others ← entries extract rest
      return (key, value) :: others

end Extractor

/-! ## The parts of a configuration -/

namespace PropertyValue

def toDocument : PropertyValue → Document
  | bool value => .bool value
  | int value => .signed value.toInt
  | float value => .float value
  | text value => .text value

/-- The property value of an integer: beyond 64 bits it becomes a double-precision
number. -/
def ofInteger (value : Int) : PropertyValue :=
  if IsSignedWord value then int (Int64.ofInt value)
  else float (.ofInt value)

def extract : Extractor PropertyValue
  | .bool value => .ok (bool value)
  | .signed value => .ok (ofInteger value)
  | .unsigned value => .ok (ofInteger value)
  | .float value => .ok (float value)
  | .text value => .ok (text value)
  | _ => Extractor.fail .noPropertyValue

end PropertyValue

namespace InfoDictionary

def toDocument (dictionary : InfoDictionary) : Document :=
  .table (dictionary.map PropertyValue.toDocument).entries

def extract : Extractor InfoDictionary
  | .table fields =>
      (Extractor.entries PropertyValue.extract fields).map Dictionary.ofList
  | other => Extractor.fail (.wrongKind other "a map")

end InfoDictionary

namespace LogFormat

/-- Reads a format: its name, or a table that binds it. As a format binds nothing, no
such table is accepted in the end. -/
def extract : Extractor LogFormat
  | .text name => named name
  | .table [] => Extractor.fail (.wrongKind (.table []) "enum")
  | .table ((name, content) :: _) => do
      let _ ← named name
      Extractor.below name (fun part => Extractor.fail (.wrongKind part "unit")) content
  | other => Extractor.fail (.wrongKind other "enum LogFormat")
where
  named (name : String) : Except ExtractionError LogFormat :=
    match Enumerated.named? LogFormat name with
    | some format => .ok format
    | none => Extractor.fail (.unknownName name (Enumerated.names LogFormat))

end LogFormat

namespace LoggingConfig

def toDocument (config : LoggingConfig) : Document :=
  .ofFields [("level", .text config.level), ("format", .text config.format.name)]

def ofParts (level : Option String) (format : Option LogFormat) : LoggingConfig :=
  ⟨level.getD default.level, format.getD default.format⟩

def extract : Extractor LoggingConfig
  | .table fields => do
      let format ← Extractor.field? "format" LogFormat.extract fields
      let level ← Extractor.field? "level" Extractor.text fields
      return ofParts level format
  | .list items => do
      let level ← Extractor.item? 0 Extractor.text items
      let format ← Extractor.item? 1 LogFormat.extract items
      return ofParts level format
  | other => Extractor.fail (.wrongKind other "struct LoggingConfig")

end LoggingConfig

namespace ManagerConfig

def toDocument (config : ManagerConfig) : Document :=
  .ofFields [("identifier", .text config.identifier),
    ("settings", InfoDictionary.toDocument config.settings)]

def extract : Extractor ManagerConfig
  | .table fields => do
      let identifier ← Extractor.field? "identifier" Extractor.text fields
      let settings ← Extractor.field? "settings" InfoDictionary.extract fields
      match identifier with
      | some identifier => return ⟨identifier, settings.getD .empty⟩
      | none => Extractor.fail (.missingField "identifier")
  | .list items => do
      match ← Extractor.item? 0 Extractor.text items with
      | some identifier =>
          let settings ← Extractor.item? 1 InfoDictionary.extract items
          return ⟨identifier, settings.getD .empty⟩
      | none => Extractor.fail (.wrongLength 0 "struct ManagerConfig with 2 elements")
  | other => Extractor.fail (.wrongKind other "struct ManagerConfig")

end ManagerConfig

namespace AppConfig

/-- The tree of a configuration; a manager that is not configured is left out. -/
def toDocument (config : AppConfig) : Document :=
  .ofFields <|
    (match config.manager with
      | none => []
      | some manager => [("manager", manager.toDocument)]) ++
    [("logging", config.logging.toDocument)]

def extract : Extractor AppConfig
  | .table fields => do
      let logging ← Extractor.field? "logging" LoggingConfig.extract fields
      let manager ← Extractor.field? "manager" ManagerConfig.extract fields
      return ⟨manager, logging.getD .default⟩
  | other => Extractor.fail (.wrongKind other "struct AppConfig")

end AppConfig
end AssetExchange
