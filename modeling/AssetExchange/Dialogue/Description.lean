import AssetExchange.AnyManager
import AssetExchange.Dialogue.Request
import AssetExchange.Log.FilterStack

/-!
# Managers from their descriptions

A manager to work with can be described by an object. Its kind says what is described:
a catalogue with its content, a manager that supports only what it must, or a script
that replays reports. What a description leaves out keeps its usual value.
-/

namespace AssetExchange
namespace Dialogue

def callbackOrder (request : Json) : Read CallbackOrder := do
  match ← orElse "forward" Decoder.text "order" request with
  | "forward" => return .forward
  | "reverse" => return .reverse
  | "threaded" => return .threaded
  | _ => .error .badInput

/-- One list of related references, with the entity and the relationship trait. -/
def relation (request : Json) : Read (String × String × List EntityReference) := do
  let entity ← text "entity" request
  let trait ← text "trait" request
  return (entity, trait, ← required references "related" request)

/-- What a catalogue supports before and after it is prepared. -/
def withDescribedCapabilities (start : Catalogue) (request : Json) : Read Catalogue := do
  let capabilities ← optional capabilityList "capabilities" request
  let added ← orElse [] capabilityList "add_capabilities" request
  let removed ← orElse [] capabilityList "remove_capabilities" request
  let later ← optional capabilityList "capabilities_after_initialize" request
  let listed := { start with
    capabilities := capabilities.getD start.capabilities, laterCapabilities := later }
  return removed.foldl .withoutCapability (added.foldl .withCapability listed)

/-- What a catalogue says about itself and how its references begin. -/
def withDescribedInfo (start : Catalogue) (request : Json) : Read Catalogue := do
  let scheme ← optional Decoder.text "scheme" request
  let info ← entriesOr PropertyValue.decode "info" request
  let published ← orElse false Decoder.bool "published_prefix" request
  let named := (scheme.map start.withScheme).getD start
  let informed := info.foldl (fun held entry => held.withInfo entry.1 entry.2) named
  return if published then informed.withPublishedScheme else informed

/-- The catalogue of a description. -/
def catalogue (request : Json) : Read Catalogue := do
  let start := Catalogue.named (← text "identifier" request)
  let start ← withDescribedCapabilities start request
  let start ← withDescribedInfo start request
  let entities ← entriesOr TraitsData.decode "entities" request
  let elementErrors ← entriesOr BatchElementError.decode "element_errors" request
  let relations ← (← listOr "relations" request).mapM relation
  let policy ← orElse .empty TraitsData.decode "policy" request
  let terms ← entriesOr Decoder.text "terminology" request
  let order ← callbackOrder request
  let callFailure ← apiErrorOr "call_failure" request
  let prepareFailure ← apiErrorOr "initialize_failure" request
  let filled := entities.foldl (fun held entry => held.withEntity entry.1 entry.2) start
  let filled := elementErrors.foldl
    (fun held entry => held.withElementError entry.1 entry.2) filled
  let filled := relations.foldl
    (fun held (entity, trait, related) => held.withRelations entity trait related) filled
  let filled := terms.foldl (fun held entry => held.withTerm entry.1 entry.2) filled
  return { filled with
    policy := policy
    order := order
    callFailure := callFailure
    prepareFailure := prepareFailure }

def queued {alpha : Type} (read : Json → Read alpha) (entry : Json) :
    Read (Outcome alpha) :=
  match entry.field? "err" with
  | some error => (apiError error).map .error
  | none => (read entry).map .ok

def scriptPager (request : Json) : Read ScriptPager := do
  let name ← text "name" request
  let hasNext ← (← listOr "has_next" request).mapM
    (queued fun entry => decoded (Decoder.bool entry))
  let pages ← (← listOr "get" request).mapM
    (queued fun entry => decoded (references entry))
  let moves ← (← listOr "next" request).mapM (queued fun _ => .ok ())
  return ⟨name, hasNext, pages, moves⟩

/-- A scripted value, read in every way in which it can be read. -/
def scriptValue (value : Json) : ScriptValue where
  flag? := (Decoder.bool value).toOption
  traits? := (Decoder.nameSet value).toOption
  data? := (TraitsData.decode value).toOption
  reference? := (reference value).toOption
  default? := (Decoder.optional reference value).toOption
  pager? := (scriptPager value).toOption

def scriptReport (request : Json) : Read (Report ScriptValue) := do
  let index ← required Decoder.word "index" request
  match request.field? "ok" with
  | some value => return ⟨index, .ok (scriptValue value)⟩
  | none => return ⟨index, .error (← required BatchElementError.decode "err" request)⟩

def replay (request : Json) : Read Replay := do
  let reports ← (← listOr "events" request).mapM scriptReport
  let heedsStop ← orElse false Decoder.bool "honor_break" request
  return ⟨reports, heedsStop, ← apiErrorOr "result" request⟩

/-- The script of a description, which replays reports or supports no batch
requests. -/
def script (replays : Bool) (request : Json) : Read Script := do
  let identifier ← text "identifier" request
  let displayName ← orElse "" Decoder.text "display_name" request
  let capabilities ← orElse [] capabilityList "capabilities" request
  let scheme ← orElse "" Decoder.text "prefix" request
  if replays then
    return ⟨identifier, displayName, capabilities, scheme, some (← replay request)⟩
  else return ⟨identifier, displayName, capabilities, scheme, none⟩

def manager (request : Json) : Read AnyManager := do
  match ← text "kind" request with
  | "stub" => (catalogue request).map .inl
  | "bare" => (script false request).map .inr
  | "scripted" => (script true request).map .inr
  | _ => .error .badInput

/-- A manager with the identifier under which it is registered. -/
def registryEntry (request : Json) : Read (String × AnyManager) := do
  let identifier ← text "identifier" request
  return (identifier, ← manager (← part "manager" request))

/-- The host that a request describes, or the usual one. -/
def describedHost (request : Json) : Read Host :=
  match request.field? "host" with
  | none => return ⟨"org.test.host", "Test Host", .empty⟩
  | some value => do
      let identifier ← text "identifier" value
      let displayName ← orElse "" Decoder.text "display_name" value
      return ⟨identifier, displayName, ← properties "info" value⟩

/-- A recorder, behind a filter if a request gives a threshold under the key. -/
def describedLog (key : String) (request : Json) : Read FilterStack := do
  match ← optional (Decoder.enumerated Severity) key request with
  | some threshold => return FilterStack.recorder.push threshold
  | none => return .recorder

end Dialogue
end AssetExchange
