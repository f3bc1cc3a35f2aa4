import AssetExchange.Config.AppConfig
import AssetExchange.Log.Directive

/-!
# Diagnostics of a process

A process writes its diagnostic events in one format and through one list of
directives. They are installed once; a later attempt changes nothing and is itself an
event. The level of the configuration holds for all targets that no directive names.
-/

namespace AssetExchange

/-- How events are written and which. -/
structure EventOutput where
  format : LogFormat
  directives : List Directive
deriving DecidableEq

/-- The format that a text asks for, in capitals or small letters. -/
def LogFormat.ofOverride? (text : String) : Option LogFormat :=
  match Text.lowerAscii text with
  | "json" => some .json
  | "pretty" | "human" => some .pretty
  | _ => none

namespace LoggingConfig

/-- The level of a configuration; informational if it names none. -/
def eventLevel (config : LoggingConfig) : EventLevel :=
  (EventLevel.ofText? config.level).getD .info

/-- The output that a configuration asks for. A text may override the format, and
another one may add directives for certain targets. -/
def toOutput (config : LoggingConfig) (format directives : Option String) :
    EventOutput where
  format := (format.bind LogFormat.ofOverride?).getD config.format
  directives :=
    (directives.elim [] Directive.listOf) ++ [⟨"", none, some config.eventLevel⟩]

end LoggingConfig

/-- The diagnostics of a process. -/
structure Diagnostics where
  output : Option EventOutput
  /-- The events that were written, in order. -/
  written : List Event

namespace Diagnostics

def start : Diagnostics := ⟨none, []⟩

def emit (diagnostics : Diagnostics) (event : Event) : Diagnostics :=
  if diagnostics.output.any fun output => Directive.letThrough output.directives event then
    { diagnostics with written := diagnostics.written ++ [event] }
  else diagnostics

/-- The event of an attempt to install an output where there is one already. -/
def alreadyInstalled : Event :=
  ⟨"assetio_config::logging", .debug, ["message", "error"]⟩

/-- Installs an output, and says whether none was there before. -/
def install (diagnostics : Diagnostics) (output : EventOutput) : Bool × Diagnostics :=
  match diagnostics.output with
  | none => (true, { diagnostics with output := some output })
  | some _ => (false, diagnostics.emit alreadyInstalled)

end Diagnostics
end AssetExchange
