import AssetExchange.Batch.Run
import AssetExchange.Context
import AssetExchange.Host
import AssetExchange.Reply

/-!
# The interface of managers

A `Plugin` is everything a host can ask of a manager whose states have type `sigma`
and which hands out pagers of type `pi`. Nothing is assumed about its behaviour:
every request may change the state, fail or send messages, and a batch request is an
arbitrary `BatchRun`.

`Call` names the requests. A manager that does not support one of them fails with
`Fault.notImplemented`; `Plugin.minimal` is a manager that supports only what no
manager can do without.
-/

namespace AssetExchange

inductive Call
  | info
  | settings
  | prepare
  | flushCaches
  | updateTerminology
  | managementPolicy
  | recognize
  | createState
  | createChildState
  | tokenForState
  | stateFromToken
  | entityExists
  | entityTraits
  | resolve
  | defaultEntityReference
  | relatedToMany
  | relatedByMany
  | preflight
  | register
deriving DecidableEq

def Call.name : Call → String
  | info => "info"
  | settings => "settings"
  | prepare => "initialize"
  | flushCaches => "flush_caches"
  | updateTerminology => "update_terminology"
  | managementPolicy => "management_policy"
  | recognize => "is_entity_reference_string"
  | createState => "create_state"
  | createChildState => "create_child_state"
  | tokenForState => "persistence_token_for_state"
  | stateFromToken => "state_from_persistence_token"
  | entityExists => "entity_exists"
  | entityTraits => "entity_traits"
  | resolve => "resolve"
  | defaultEntityReference => "default_entity_reference"
  | relatedToMany => "get_with_relationship"
  | relatedByMany => "get_with_relationships"
  | preflight => "preflight"
  | register => "register"

/-- A request that reports element by element and then returns. -/
abbrev BatchRequest (sigma alpha : Type) :=
  sigma → BatchRun alpha (Reply sigma (Outcome Unit))

/-- The interface of a manager with states `sigma` and pagers `pi`. -/
structure Plugin (sigma pi : Type) where
  identifier : sigma → String
  displayName : sigma → String
  info : Request sigma InfoDictionary
  hasCapability : sigma → Capability → Bool
  /-- Current settings, fit to prepare it with. -/
  settings : Request sigma (Outcome InfoDictionary)
  prepare : Host → InfoDictionary → Request sigma (Outcome Unit)
  flushCaches : Request sigma (Outcome Unit)
  /-- Replaces terms by the manager's own. -/
  updateTerminology : Terminology → Request sigma (Outcome Terminology)
  /-- One policy for each trait set. -/
  managementPolicy : List TraitSet → PolicyAccess → Context →
    Request sigma (Outcome (List TraitsData))
  recognize : String → Request sigma Bool
  createState : Request sigma (Outcome ContextState)
  createChildState : ContextState → Request sigma (Outcome ContextState)
  tokenForState : ContextState → Request sigma (Outcome String)
  stateFromToken : String → Request sigma (Outcome ContextState)
  entityExists : List EntityReference → Context → BatchRequest sigma Bool
  entityTraits : List EntityReference → EntityTraitsAccess → Context →
    BatchRequest sigma TraitSet
  resolve : List EntityReference → TraitSet → ResolveAccess → Context →
    BatchRequest sigma TraitsData
  defaultEntityReference : List TraitSet → DefaultEntityAccess → Context →
    BatchRequest sigma (Option EntityReference)
  /-- Pagers over what is related to each of many entities by one relationship:
  relationship, result traits, page size. -/
  relatedToMany : List EntityReference → TraitsData → TraitSet → Nat →
    RelationsAccess → Context → BatchRequest sigma pi
  /-- Pagers over what is related to one entity by each of many relationships. -/
  relatedByMany : EntityReference → List TraitsData → TraitSet → Nat →
    RelationsAccess → Context → BatchRequest sigma pi
  /-- Announces entities that are about to be published. -/
  preflight : List EntityReference → List TraitsData → PublishingAccess → Context →
    BatchRequest sigma EntityReference
  register : List EntityReference → List TraitsData → PublishingAccess → Context →
    BatchRequest sigma EntityReference
  pagerHasNext : pi → Request sigma (pi × Outcome Bool)
  pagerGet : pi → Request sigma (pi × Outcome (List EntityReference))
  pagerNext : pi → Request sigma (pi × Outcome Unit)
  pagerClose : pi → Request sigma Unit

namespace Plugin

variable {sigma pi alpha : Type}

/-- A batch request that fails as a whole and reports nothing. -/
def failBatch (error : ApiError) : BatchRequest sigma alpha :=
  fun state => .done ⟨.error error, state, []⟩

def unsupported (call : Call) : Request sigma (Outcome alpha) :=
  .fail (.notImplemented call.name)

def unsupportedBatch (call : Call) : BatchRequest sigma alpha :=
  failBatch (Fault.notImplemented call.name).toError

/-- A manager that supports nothing but identity, capabilities and recognition. It
accepts any settings and keeps none, leaves terms alone, and its pagers are empty. -/
def minimal (identifier displayName : sigma → String)
    (hasCapability : sigma → Capability → Bool)
    (recognize : String → Request sigma Bool) : Plugin sigma pi where
  identifier := identifier
  displayName := displayName
  info := .answer .empty
  hasCapability := hasCapability
  settings := .answer (.ok .empty)
  prepare := fun _ _ => .answer (.ok ())
  flushCaches := .answer (.ok ())
  updateTerminology := fun terms => .answer (.ok terms)
  managementPolicy := fun _ _ _ => unsupported .managementPolicy
  recognize := recognize
  createState := unsupported .createState
  createChildState := fun _ => unsupported .createChildState
  tokenForState := fun _ => unsupported .tokenForState
  stateFromToken := fun _ => unsupported .stateFromToken
  entityExists := fun _ _ => unsupportedBatch .entityExists
  entityTraits := fun _ _ _ => unsupportedBatch .entityTraits
  resolve := fun _ _ _ _ => unsupportedBatch .resolve
  defaultEntityReference := fun _ _ _ => unsupportedBatch .defaultEntityReference
  relatedToMany := fun _ _ _ _ _ _ => unsupportedBatch .relatedToMany
  relatedByMany := fun _ _ _ _ _ _ => unsupportedBatch .relatedByMany
  preflight := fun _ _ _ _ => unsupportedBatch .preflight
  register := fun _ _ _ _ => unsupportedBatch .register
  pagerHasNext := fun pager => .answer (pager, .ok false)
  pagerGet := fun pager => .answer (pager, .ok [])
  pagerNext := fun pager => .answer (pager, .ok ())
  pagerClose := fun _ => .answer ()

/-- The required capabilities that a manager lacks, in the order in which they are
checked. -/
def missingCapabilities (plugin : Plugin sigma pi) (state : sigma) : List Capability :=
  Capability.required.filter fun capability => !plugin.hasCapability state capability

/-- Fails, naming every missing required capability. -/
def verifyCapabilities (plugin : Plugin sigma pi) (state : sigma) : Outcome Unit :=
  match plugin.missingCapabilities state with
  | [] => .ok ()
  | missing => .error (Fault.missingCapabilities (plugin.identifier state) missing).toError

end Plugin
end AssetExchange
