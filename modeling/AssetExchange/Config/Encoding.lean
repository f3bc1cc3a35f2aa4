import AssetExchange.Config.AppConfig
import AssetExchange.Json.Model

/-!
# Configurations as document values

How configurations are written as document values and read back. Each part may be
given as an object or as the list of its fields in declaration order; what is left
out takes its default, but a manager must have an identifier.
-/

namespace AssetExchange

namespace LoggingConfig

def encode (config : LoggingConfig) : Json :=
  .ofFields [("level", .text config.level), ("format", Enumerated.encode config.format)]

def ofGiven (level : Option String) (format : Option LogFormat) : LoggingConfig :=
  ⟨level.getD default.level, format.getD default.format⟩

def decode : Decoder LoggingConfig
  | .object fields => do
      let format ← Decoder.field? (Decoder.enumerated LogFormat) "format" fields
      let level ← Decoder.field? Decoder.text "level" fields
      return ofGiven level format
  | .list items => do
      let (level, others) ← Decoder.item? Decoder.text items
      let (format, excess) ← Decoder.item? (Decoder.enumerated LogFormat) others
      Decoder.endOfList excess
      return ofGiven level format
  | _ => .error .invalidType

end LoggingConfig

namespace ManagerConfig

def encode (config : ManagerConfig) : Json :=
  .ofFields [("identifier", .text config.identifier),
    ("settings", InfoDictionary.encode config.settings)]

def decode : Decoder ManagerConfig
  | .object fields => do
      let identifier ← Decoder.field? Decoder.text "identifier" fields
      let settings ← Decoder.field? InfoDictionary.decode "settings" fields
      return ⟨← Decoder.require "identifier" identifier, settings.getD .empty⟩
  | .list items => do
      let (identifier, others) ← Decoder.item? Decoder.text items
      let identifier ← Decoder.requireItem identifier
      let (settings, excess) ← Decoder.item? InfoDictionary.decode others
      Decoder.endOfList excess
      return ⟨identifier, settings.getD .empty⟩
  | _ => .error .invalidType

end ManagerConfig

namespace AppConfig

/-- The object of a configuration; a manager that is not configured is left out. -/
def encode (config : AppConfig) : Json :=
  .ofFields <|
    (match config.manager with
      | none => []
      | some manager => [("manager", manager.encode)]) ++
    [("logging", config.logging.encode)]

def ofGiven (manager : Option (Option ManagerConfig)) (logging : Option LoggingConfig) :
    AppConfig :=
  ⟨manager.join, logging.getD .default⟩

def decode : Decoder AppConfig
  | .object fields => do
      let logging ← Decoder.field? LoggingConfig.decode "logging" fields
      let manager ← Decoder.field? (Decoder.optional ManagerConfig.decode) "manager" fields
      return ofGiven manager logging
  | .list items => do
      let (manager, others) ← Decoder.item? (Decoder.optional ManagerConfig.decode) items
      let (logging, excess) ← Decoder.item? LoggingConfig.decode others
      Decoder.endOfList excess
      return ofGiven manager logging
  | _ => .error .invalidType

end AppConfig
end AssetExchange
