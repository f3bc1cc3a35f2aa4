import AssetExchange.Manager.Basic

/-!
# Batch requests through the host's view

The batch requests of a manager as a host makes them. Where lists belong together
their lengths are compared first, and pages must have room for a reference; a request
that fails these checks never reaches the manager.
-/

namespace AssetExchange
namespace Manager

variable {sigma pi alpha : Type} (plugin : Plugin sigma pi)

/-- Makes a request unless a check fails. -/
def guarded (check : Option Fault) (request : BatchRequest sigma alpha) :
    BatchRequest (Manager sigma) alpha :=
  match check with
  | some fault => Plugin.failBatch fault.toError
  | none => passBatch request

def checkPageSize (pageSize : Nat) : Option Fault :=
  if pageSize = 0 then some .emptyPageSize else none

def checkLengths (references others : Nat) (othersName : String) : Option Fault :=
  if references ≠ others then some (.unequalLengths references others othersName)
  else none

def entityExists (references : List EntityReference) (context : Context) :
    BatchRequest (Manager sigma) Bool :=
  passBatch (plugin.entityExists references context)

def entityTraits (references : List EntityReference) (access : EntityTraitsAccess)
    (context : Context) : BatchRequest (Manager sigma) TraitSet :=
  passBatch (plugin.entityTraits references access context)

def resolve (references : List EntityReference) (traits : TraitSet)
    (access : ResolveAccess) (context : Context) :
    BatchRequest (Manager sigma) TraitsData :=
  passBatch (plugin.resolve references traits access context)

def defaultEntityReference (traitSets : List TraitSet) (access : DefaultEntityAccess)
    (context : Context) : BatchRequest (Manager sigma) (Option EntityReference) :=
  passBatch (plugin.defaultEntityReference traitSets access context)

def relatedToMany (references : List EntityReference) (relationship : TraitsData)
    (resultTraits : TraitSet) (pageSize : Nat) (access : RelationsAccess)
    (context : Context) : BatchRequest (Manager sigma) pi :=
  guarded (checkPageSize pageSize)
    (plugin.relatedToMany references relationship resultTraits pageSize access context)

def relatedByMany (reference : EntityReference) (relationships : List TraitsData)
    (resultTraits : TraitSet) (pageSize : Nat) (access : RelationsAccess)
    (context : Context) : BatchRequest (Manager sigma) pi :=
  guarded (checkPageSize pageSize)
    (plugin.relatedByMany reference relationships resultTraits pageSize access context)

def preflight (references : List EntityReference) (hints : List TraitsData)
    (access : PublishingAccess) (context : Context) :
    BatchRequest (Manager sigma) EntityReference :=
  guarded (checkLengths references.length hints.length "traits hints")
    (plugin.preflight references hints access context)

def register (references : List EntityReference) (datas : List TraitsData)
    (access : PublishingAccess) (context : Context) :
    BatchRequest (Manager sigma) EntityReference :=
  guarded (checkLengths references.length datas.length "traits datas")
    (plugin.register references datas access context)

end Manager
end AssetExchange
