import AssetExchange.Desk.Inspection
import AssetExchange.Dialogue.Request

/-!
# Operations from requests

A request names an operation and gives its arguments. Contexts are given by the names
under which a desk keeps them; naming one that is not there refuses the request at the
place where the context is read. The fields of each operation are read in a fixed
order.
-/

namespace AssetExchange
namespace Dialogue

/-! ## Arguments -/

def contextNamed (desk : AnyDesk) (name : String) : Read Context :=
  match desk.contexts.get? name with
  | some context => .ok context
  | none => .error .badInput

/-- The context that a request names; without a name, an empty one. -/
def givenContext (desk : AnyDesk) (key : String) (request : Json) : Read Context := do
  match ← optional Decoder.text key request with
  | none => return .empty
  | some name => contextNamed desk name

def access {admitted : List Access} (request : Json) : Read (AccessAmong admitted) :=
  required (Decoder.enumerated (AccessAmong admitted)) "access" request

def givenReferences (request : Json) : Read (List EntityReference) :=
  orElse [] references "refs" request

def givenTraitSets (request : Json) : Read (List TraitSet) :=
  orElse [] (.list Decoder.nameSet) "trait_sets" request

def bundles (key : String) (request : Json) : Read (List TraitsData) :=
  orElse [] (.list TraitsData.decode) key request

def bundle (key : String) (request : Json) : Read TraitsData :=
  orElse .empty TraitsData.decode key request

def errorPolicy (request : Json) : Read ErrorPolicy := do
  match Enumerated.named? ErrorPolicy (← text "policy" request) with
  | some policy => return policy
  | none => .error .badInput

/-- How the errors of a batch request are answered: from which one on by `stop`. -/
def answerRule (request : Json) : Read AnswerRule := do
  match ← optional Decoder.word "break_after" request with
  | some count => return .stopFrom count
  | none => return .never

/-! ## Batch requests -/

def batchOperation (desk : AnyDesk) (name : String) (request : Json) :
    Read (Option BatchOperation) := do
  match name with
  | "entity_exists" =>
      let references ← givenReferences request
      return some (.entityExists references (← givenContext desk "context" request))
  | "entity_traits" =>
      let references ← givenReferences request
      let context ← givenContext desk "context" request
      return some (.entityTraits references context (← access request))
  | "resolve" =>
      let references ← givenReferences request
      let context ← givenContext desk "context" request
      let traits ← traits "traits" request
      return some (.resolve references context traits (← access request))
  | "default_entity_reference" =>
      let traitSets ← givenTraitSets request
      let context ← givenContext desk "context" request
      return some (.defaultEntityReference traitSets context (← access request))
  | "preflight" =>
      let references ← givenReferences request
      let context ← givenContext desk "context" request
      let hints ← bundles "datas" request
      return some (.preflight references context hints (← access request))
  | "register" =>
      let references ← givenReferences request
      let context ← givenContext desk "context" request
      let datas ← bundles "datas" request
      return some (.register references context datas (← access request))
  | "get_with_relationship" =>
      let context ← givenContext desk "context" request
      let pageSize ← required Decoder.word "page_size" request
      let access ← access request
      let resultTraits ← traits "result_traits" request
      let name ← orElse "" Decoder.text "as" request
      let references ← givenReferences request
      let relationship ← bundle "relationship" request
      return some
        (.relatedToMany context pageSize access resultTraits name references relationship)
  | "get_with_relationships" =>
      let context ← givenContext desk "context" request
      let pageSize ← required Decoder.word "page_size" request
      let access ← access request
      let resultTraits ← traits "result_traits" request
      let name ← orElse "" Decoder.text "as" request
      let subject ← required reference "ref" request
      let relationships ← bundles "relationships" request
      return some
        (.relatedByMany context pageSize access resultTraits name subject relationships)
  | _ => return none

/-! ## Requests under an error policy -/

/-- One reference and a context. -/
def oneSubject (desk : AnyDesk) (request : Json) : Read (EntityReference × Context) := do
  let subject ← required reference "ref" request
  return (subject, ← givenContext desk "context" request)

/-- Many references and a context. -/
def manySubjects (desk : AnyDesk) (request : Json) :
    Read (List EntityReference × Context) := do
  let references ← givenReferences request
  return (references, ← givenContext desk "context" request)

def shapeOperation (desk : AnyDesk) (name : String) (request : Json) :
    Read (Option ShapeOperation) := do
  match name with
  | "entity_exists_one" =>
      let (subject, context) ← oneSubject desk request
      return some (.entityExistsOne subject context)
  | "entity_exists_many" =>
      let (references, context) ← manySubjects desk request
      return some (.entityExistsMany references context)
  | "entity_traits_one" =>
      let (subject, context) ← oneSubject desk request
      return some (.entityTraitsOne subject context (← access request))
  | "entity_traits_many" =>
      let (references, context) ← manySubjects desk request
      return some (.entityTraitsMany references context (← access request))
  | "resolve_one" =>
      let (subject, context) ← oneSubject desk request
      let access ← access request
      return some (.resolveOne subject context access (← traits "traits" request))
  | "resolve_many" =>
      let (references, context) ← manySubjects desk request
      let access ← access request
      return some (.resolveMany references context access (← traits "traits" request))
  | "preflight_one" =>
      let (subject, context) ← oneSubject desk request
      let access ← access request
      return some (.preflightOne subject context access (← bundle "data" request))
  | "preflight_many" =>
      let (references, context) ← manySubjects desk request
      let access ← access request
      return some (.preflightMany references context access (← bundles "datas" request))
  | "register_one" =>
      let (subject, context) ← oneSubject desk request
      let access ← access request
      return some (.registerOne subject context access (← bundle "data" request))
  | "register_many" =>
      let (references, context) ← manySubjects desk request
      let access ← access request
      return some (.registerMany references context access (← bundles "datas" request))
  | _ => return none

/-! ## Contexts and single requests -/

def contextOperation (desk : AnyDesk) (name : String) (request : Json) :
    Read (Option Operation) := do
  match name with
  | "create_context" => return some (.createContext (← text "as" request))
  | "create_child_context" =>
      let parent ← givenContext desk "parent" request
      return some (.createChildContext parent (← text "as" request))
  | "new_context" =>
      let locale ← bundle "locale" request
      let foreign ← orElse false Decoder.bool "foreign_state" request
      let made : Context := ⟨locale, if foreign then some .foreign else none⟩
      return some (.keepContext made (← text "as" request))
  | "clone_context" =>
      let held ← givenContext desk "context" request
      return some (.keepContext held (← text "as" request))
  | "context" => return some (.showContext (← givenContext desk "context" request))
  | "context_add_trait" =>
      let name ← text "context" request
      let held ← contextNamed desk name
      let trait ← text "trait" request
      return some (.keepContext { held with locale := held.locale.addTrait trait } name)
  | "context_set_property" =>
      let name ← text "context" request
      let held ← contextNamed desk name
      let value ← required PropertyValue.decode "value" request
      let trait ← text "trait" request
      let key ← text "key" request
      let locale := held.locale.setProperty trait key value
      return some (.keepContext { held with locale := locale } name)
  | "context_from_token" =>
      let token ← text "token" request
      return some (.contextOfToken token (← text "as" request))
  | "persistence_token" =>
      return some (.persistenceToken (← givenContext desk "context" request))
  | _ => return none

def pagerOperation? (name : String) : Option (String → Operation) :=
  match name with
  | "pager_has_next" => some .pagerHasNext
  | "pager_get" => some .pagerGet
  | "pager_next" => some .pagerNext
  | "pager_debug" => some .pagerDescribe
  | "pager_pages" => some .pagerPages
  | "pager_into_pages" => some .pagerIntoPages
  | "pages_next" => some .pagesNext
  | "pager_drop" => some .pagerDrop
  | _ => none

def singleOperation (desk : AnyDesk) (name : String) (request : Json) :
    Read Operation := do
  match name with
  | "initialize" => return .prepare (← properties "settings" request)
  | "identifier" => return .identifier
  | "display_name" => return .displayName
  | "info" => return .info
  | "has_capability" =>
      return .hasCapability
        (← required (Decoder.enumerated Capability) "capability" request)
  | "capabilities" => return .capabilities
  | "settings" => return .settings
  | "update_terminology" =>
      return .updateTerminology
        (← orElse .empty (Decoder.dictionary Decoder.text) "terms" request)
  | "flush_caches" => return .flushCaches
  | "management_policy" =>
      let traitSets ← givenTraitSets request
      let context ← givenContext desk "context" request
      return .managementPolicy traitSets context (← access request)
  | "is_entity_reference_string" => return .recognize (← text "string" request)
  | "create_entity_reference" => return .createReference (← text "string" request)
  | "create_entity_reference_if_valid" =>
      return .createReferenceIfValid (← text "string" request)
  | other =>
      match pagerOperation? other with
      | some operation => return operation (← text "pager" request)
      | none => .error .badInput

/-- The operation that a request names, and whether the reports of a batch request are
to be shown in the order of their indices. -/
def operation (desk : AnyDesk) (name : String) (request : Json) :
    Read (Operation × Bool) := do
  match ← batchOperation desk name request with
  | some batch =>
      let rule ← answerRule request
      return (.batch rule batch, ← orElse false Decoder.bool "sort" request)
  | none =>
      match ← shapeOperation desk name request with
      | some shape => return (.shape (← errorPolicy request) shape, false)
      | none =>
          match ← contextOperation desk name request with
          | some operation => return (operation, false)
          | none => return (← singleOperation desk name request, false)

/-! ## Inspections -/

def inspection (name : String) (request : Json) :
    Read (Option (Option Nat × Inspection)) := do
  let placed (read : Read Inspection) : Read (Option (Option Nat × Inspection)) := do
    let place ← optional Decoder.word "instance" request
    return some (place, ← read)
  match name with
  | "closed_pagers" => placed (.ok .closedPagers)
  | "entity" => placed ((text "ref" request).map .entity)
  | "call_count" => placed ((text "method" request).map .callCount)
  | "set_initialize_failure" => placed ((apiErrorOr "failure" request).map .setPrepareFailure)
  | "verify_required_capabilities" => placed (.ok .verifyCapabilities)
  | _ => return none

end Dialogue
end AssetExchange
