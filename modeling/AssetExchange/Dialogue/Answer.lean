import AssetExchange.Desk.Inspection
import AssetExchange.Dialogue.Request

/-!
# Writing answers

Answers to requests are objects: a value stands under `ok`; an error is given by its
kind under `error`, with its text. Property values are tagged by their kind here, and
double-precision numbers appear as their bit patterns, so that no two different values
look the same.
-/

namespace AssetExchange
namespace Dialogue

/-! ## Values and errors -/

def okay (value : Json) : Json := .ofFields [("ok", value)]

def refused : Refusal → Json
  | .badInput => .ofFields [("error", .text "BadInput")]
  | .decode error =>
      .ofFields [("error", .text "Decode"), ("message", .text error.message)]

def settled : Read Json → Json
  | .ok answer => answer
  | .error refusal => refused refusal

def errorFields (error : ApiError) : List (String × Json) :=
  ("message", .text error.message) ::
    match error with
    | .configuration _ => [("error", .text "Configuration")]
    | .inputValidation _ => [("error", .text "InputValidation")]
    | .notImplemented _ => [("error", .text "NotImplemented")]
    | .unhandled _ => [("error", .text "Unhandled")]
    | .batchElement index element _ =>
        [("error", .text "BatchElement"), ("index", .ofNat index),
          ("element", element.encode)]

def failed (error : ApiError) : Json := .ofFields (errorFields error)

def outcome {alpha : Type} (encode : alpha → Json) : Outcome alpha → Json
  | .ok value => okay (encode value)
  | .error error => failed error

/-! ## The data model -/

/-- The bit pattern of a number; every number that is none looks the same. -/
def floatText (value : Binary64) : String :=
  if value.isNaN then "nan" else value.hexText

def property : PropertyValue → Json
  | .bool value => .ofFields [("bool", .bool value)]
  | .int value => .ofFields [("int", .int value.toInt)]
  | .float value => .ofFields [("float", .text (floatText value))]
  | .text value => .ofFields [("str", .text value)]

def dictionary (value : InfoDictionary) : Json := .ofDictionary property value

def traitsData (value : TraitsData) : Json := .ofDictionary dictionary value.traits

def referenceText (value : EntityReference) : Json := .text value.text

def page (value : List EntityReference) : Json := .list (value.map referenceText)

/-- Messages with their severities. -/
def logged (messages : List LogMessage) : Json :=
  .list (messages.map fun message =>
    .list [Enumerated.encode message.severity, .text message.text])

def context (value : Context) : Json :=
  .ofFields
    [("locale", traitsData value.locale), ("has_state", .bool value.hasState),
      ("state",
        match value.state with
        | none => .null
        | some .foreign => .text "foreign"
        | some (.numbered id parent) =>
            .ofFields [("id", .ofNat id), ("parent", .ofOption .ofNat parent)])]

/-- What a host says about itself, and its description. -/
def host (value : Host) : Json :=
  .ofFields
    [("identifier", .text value.identifier), ("display_name", .text value.displayName),
      ("info", dictionary value.info), ("debug", .text value.describeSession)]

/-! ## What comes of operations -/

def reportedValue : ReportedValue → Json
  | .flag value => .bool value
  | .traits value => NameSet.encode value
  | .data value => traitsData value
  | .reference value => referenceText value
  | .maybeReference value => .ofOption referenceText value
  | .pager name => .ofFields [("pager", .text name)]

def elementOutcome (value : ElementOutcome ReportedValue) : Json :=
  match value with
  | .ok value => okay (reportedValue value)
  | .error error => .ofFields [("err", error.encode)]

def report (value : Report ReportedValue) : Json :=
  .list [.ofNat value.index, elementOutcome value.outcome]

def resultElement : ResultElement → Json
  | .plain value => reportedValue value
  | .tagged value => elementOutcome value

/-- What comes of an operation at a desk. -/
def answer : Answer → Json
  | .nothing => okay .null
  | .flag value => okay (.bool value)
  | .text value => okay (.text value)
  | .maybeText value => okay (.ofOption .text value)
  | .names values => okay (.ofTexts values)
  | .dictionary value => okay (dictionary value)
  | .terms value => okay (.ofDictionary .text value)
  | .bundles values => okay (.list (values.map traitsData))
  | .context value => okay (context value)
  | .reports values => okay (.list (values.map report))
  | .element value => okay (resultElement value)
  | .elements values => okay (.list (values.map resultElement))
  | .page value => okay (page value)
  | .pages values => okay (.list (values.map (outcome page)))
  | .walkItem none => okay .null
  | .walkItem (some item) => okay (outcome page item)
  | .failure error => failed error
  | .failureAfter error values =>
      .ofFields (("events", .list (values.map report)) :: errorFields error)
  | .missing => refused .badInput

/-- Reports in the order of their indices. -/
def sortReports (values : List (Report ReportedValue)) : List (Report ReportedValue) :=
  values.mergeSort fun first second => first.index ≤ second.index

def sortAnswer : Answer → Answer
  | .reports values => .reports (sortReports values)
  | .failureAfter error values => .failureAfter error (sortReports values)
  | other => other

def finding : Finding → Json
  | .nothing => okay .null
  | .count value => okay (.ofNat value)
  | .maybeData value => okay (.ofOption traitsData value)
  | .failure error => failed error
  | .missing => refused .badInput

/-- Adds to an answer what the log recorded and how often each request was made
between two times at a desk. -/
def withTraces (before after : AnyDesk) : Json → Json
  | .object fields =>
      let messages := Desk.recordedSince before after
      let calls := Desk.callsSince before after
      .ofFields <|
        fields ++
        (if messages.isEmpty then [] else [("logs", logged messages)]) ++
        (if calls.isEmpty then [] else [("calls", .ofDictionary .ofNat calls)])
  | other => other

end Dialogue
end AssetExchange
