import AssetExchange.Enumerated

/-!
# Capabilities

Groups of calls that a manager may support. A host insists on three of them
before it works with a manager.
-/

namespace AssetExchange

/-- A group of related calls. -/
inductive Capability
  /-- Contexts carry state of the manager. -/
  | statefulContexts
  /-- The manager has terms of its own. -/
  | customTerminology
  | resolution
  | publishing
  | relationshipQueries
  | existenceQueries
  | defaultEntityReferences
  | entityReferenceIdentification
  | managementPolicyQueries
  | entityTraitIntrospection
deriving DecidableEq

namespace Capability

def name : Capability → String
  | statefulContexts => "statefulContexts"
  | customTerminology => "customTerminology"
  | resolution => "resolution"
  | publishing => "publishing"
  | relationshipQueries => "relationshipQueries"
  | existenceQueries => "existenceQueries"
  | defaultEntityReferences => "defaultEntityReferences"
  | entityReferenceIdentification => "entityReferenceIdentification"
  | managementPolicyQueries => "managementPolicyQueries"
  | entityTraitIntrospection => "entityTraitIntrospection"

instance : Enumerated Capability where
  values := [statefulContexts, customTerminology, resolution, publishing,
    relationshipQueries, existenceQueries, defaultEntityReferences,
    entityReferenceIdentification, managementPolicyQueries, entityTraitIntrospection]
  name := name
  mem_values := by intro value; cases value <;> decide
  name_injective := by intro first second; cases first <;> cases second <;> decide

/-- The capabilities a host cannot do without, in the order in which they are
checked and reported. -/
def required : List Capability :=
  [entityReferenceIdentification, managementPolicyQueries, entityTraitIntrospection]

end Capability
end AssetExchange
