import AssetExchange.Severity

/-!
# Messages and event levels

Messages for the user of a host carry a severity. Process-wide diagnostics know
only five levels; `Severity.eventLevel` says at which of them a message is emitted
when it is forwarded there.
-/

namespace AssetExchange

/-- A message for the user of the host. -/
structure LogMessage where
  severity : Severity
  text : String
deriving DecidableEq

/-- The levels of process-wide diagnostics, from the most verbose to the gravest. -/
inductive EventLevel
  | trace
  | debug
  | info
  | warn
  | error
deriving DecidableEq

namespace EventLevel

def name : EventLevel → String
  | trace => "TRACE"
  | debug => "DEBUG"
  | info => "INFO"
  | warn => "WARN"
  | error => "ERROR"

instance : Enumerated EventLevel where
  values := [trace, debug, info, warn, error]
  name := name
  mem_values := by intro value; cases value <;> decide
  name_injective := by intro first second; cases first <;> cases second <;> decide

/-- The number of a level: the graver, the smaller. -/
def rank : EventLevel → Nat
  | error => 1
  | warn => 2
  | info => 3
  | debug => 4
  | trace => 5

def ofRank? : Nat → Option EventLevel
  | 1 => some error
  | 2 => some warn
  | 3 => some info
  | 4 => some debug
  | 5 => some trace
  | _ => none

end EventLevel

/-- The level at which a message of a severity is forwarded. -/
def Severity.eventLevel : Severity → EventLevel
  | .debugApi => .trace
  | .debug => .debug
  | .info => .info
  | .progress => .info
  | .warning => .warn
  | .error => .error
  | .critical => .error

end AssetExchange
