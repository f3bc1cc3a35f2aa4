/-!
# Entity references

A string that identifies an entity of some manager. Hosts obtain references by
having a string recognised first; managers wrap what they produced themselves.
-/

namespace AssetExchange

/-- A string accepted as the identity of an entity. -/
structure EntityReference where
  text : String
deriving DecidableEq

end AssetExchange
