import AssetExchange.Log.Message
import AssetExchange.Text.Blank
import AssetExchange.Text.Numeral

/-!
# Severity filters in front of a recorder

A filter drops messages below its threshold before it passes them on. Filters
stack in front of a recorder that keeps every message it is given. A message may be
handed to the outermost filter or straight to a layer further in.

The threshold of a new filter can come from a setting: a number from 0 to 6. A
setting that is no such number is reported to the layers behind the new filter.
-/

namespace AssetExchange

/-- Filters, outermost first, in front of a recorder. -/
structure FilterStack where
  /-- The thresholds, outermost first. -/
  thresholds : List Severity
  /-- What the recorder holds, oldest first. -/
  entries : List LogMessage
deriving DecidableEq

namespace FilterStack

def recorder : FilterStack := ⟨[], []⟩

def push (stack : FilterStack) (threshold : Severity) : FilterStack :=
  { stack with thresholds := threshold :: stack.thresholds }

/-- What the outermost of some layers says about a severity: a filter consults its own
threshold, and the recorder admits everything. -/
def layersAdmit : List Severity → Severity → Bool
  | [], _ => true
  | threshold :: _, severity => severity.passes threshold

/-- What the recorder holds after a message was handed to the outermost of some layers:
a filter passes on what it admits itself, and the recorder keeps what it is given. -/
def handOn (held : List LogMessage) (message : LogMessage) :
    List Severity → List LogMessage
  | [] => held ++ [message]
  | threshold :: inner =>
      if layersAdmit (threshold :: inner) message.severity then
        handOn held message inner
      else held

/-- Hands a message to the layer behind the first `depth` filters. -/
def logAt (stack : FilterStack) (depth : Nat) (severity : Severity)
    (text : String) : FilterStack :=
  { stack with
    entries := handOn stack.entries ⟨severity, text⟩ (stack.thresholds.drop depth) }

def log (stack : FilterStack) (severity : Severity) (text : String) : FilterStack :=
  stack.logAt 0 severity text

def logAll (stack : FilterStack) (messages : List LogMessage) : FilterStack :=
  messages.foldl (fun held message => held.log message.severity message.text) stack

def debugApi (stack : FilterStack) (text : String) : FilterStack := stack.log .debugApi text

def debug (stack : FilterStack) (text : String) : FilterStack := stack.log .debug text

def info (stack : FilterStack) (text : String) : FilterStack := stack.log .info text

def progress (stack : FilterStack) (text : String) : FilterStack := stack.log .progress text

def warning (stack : FilterStack) (text : String) : FilterStack := stack.log .warning text

def error (stack : FilterStack) (text : String) : FilterStack := stack.log .error text

def critical (stack : FilterStack) (text : String) : FilterStack := stack.log .critical text

/-- Logs through the operation named after the severity. -/
def logNamed (stack : FilterStack) : Severity → String → FilterStack
  | .debugApi => stack.debugApi
  | .debug => stack.debug
  | .info => stack.info
  | .progress => stack.progress
  | .warning => stack.warning
  | .error => stack.error
  | .critical => stack.critical

/-- What the layer behind the first `depth` filters says about a severity. -/
def admitsAt (stack : FilterStack) (depth : Nat) (severity : Severity) : Bool :=
  layersAdmit (stack.thresholds.drop depth) severity

/-- What the outermost layer says about a severity. -/
def admits (stack : FilterStack) (severity : Severity) : Bool :=
  stack.admitsAt 0 severity

def threshold? (stack : FilterStack) : Option Severity :=
  stack.thresholds.head?

def setThreshold (stack : FilterStack) (threshold : Severity) : FilterStack :=
  match stack.thresholds with
  | [] => stack
  | _ :: inner => { stack with thresholds := threshold :: inner }

/-- The recorded texts of exactly one severity, in order. -/
def messages (stack : FilterStack) (severity : Severity) : List String :=
  (stack.entries.filter (·.severity == severity)).map (·.text)

def clear (stack : FilterStack) : FilterStack :=
  { stack with entries := [] }

/-! ## Thresholds from a setting -/

def thresholdVariable : String := "ASSETIO_LOGGING_SEVERITY"

/-- The threshold of a filter for which nothing else is configured. -/
def defaultThreshold : Severity := .warning

/-- The threshold that a setting stands for: the number of a severity, with blanks
allowed around it. -/
def thresholdOfSetting? (setting : String) : Option Severity :=
  (Text.unsigned? 256 (Text.trimBlanks setting.toList)).bind Severity.ofLevel?

def settingWarning (setting : String) : String :=
  thresholdVariable ++ " has an invalid value '" ++ setting ++
    "': must be an integer from 0 to 6"

/-- Puts a filter in front whose threshold comes from a setting. Without a setting,
or with one that stands for no threshold, the default applies; in the second case the
layers behind the new filter are warned. -/
def pushFromSetting (stack : FilterStack) : Option String → FilterStack
  | none => stack.push defaultThreshold
  | some setting =>
      match thresholdOfSetting? setting with
      | some threshold => stack.push threshold
      | none => (stack.warning (settingWarning setting)).push defaultThreshold

@[simp] theorem thresholds_logAt (stack : FilterStack) (depth : Nat)
    (severity : Severity) (text : String) :
    (stack.logAt depth severity text).thresholds = stack.thresholds := rfl

/-- A message reaches the recorder if every filter on its way lets it through. -/
theorem handOn_eq (held : List LogMessage) (message : LogMessage)
    (layers : List Severity) :
    handOn held message layers =
      held ++ if layers.all message.severity.passes then [message] else [] := by
  induction layers with
  | nil => rfl
  | cons threshold inner inductionHypothesis =>
      cases admitted : message.severity.passes threshold with
      | true => simp [handOn, layersAdmit, admitted, inductionHypothesis]
      | false => simp [handOn, layersAdmit, admitted]

theorem entries_logAt (stack : FilterStack) (depth : Nat) (severity : Severity)
    (text : String) :
    (stack.logAt depth severity text).entries =
      stack.entries ++
        if (stack.thresholds.drop depth).all severity.passes then [⟨severity, text⟩]
        else [] :=
  handOn_eq stack.entries ⟨severity, text⟩ (stack.thresholds.drop depth)

end FilterStack
end AssetExchange
