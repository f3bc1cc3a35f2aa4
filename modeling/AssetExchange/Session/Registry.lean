import AssetExchange.Dictionary
import AssetExchange.Error
import AssetExchange.Text.Quoted

/-!
# Making managers by identifier

A registry holds, for each identifier, the state in which a new manager starts; a
later registration replaces an earlier one. A `Factory` is anything that makes
managers by identifier. A registry is one, and so is a plain list of entries, which
answers whether an identifier is registered by looking through its identifiers.
-/

namespace AssetExchange

/-- Makes managers with states `sigma` by identifier. -/
structure Factory (sigma : Type) where
  identifiers : List String
  isRegistered : String → Bool
  /-- A new manager, not prepared. -/
  instantiate : String → Outcome sigma

/-- The managers of an application, by identifier. -/
structure Registry (sigma : Type) where
  /-- The state in which each manager starts. -/
  makers : Dictionary sigma

namespace Registry

variable {sigma : Type}

def empty : Registry sigma := ⟨.empty⟩

/-- Registers a manager, replacing an earlier one with the same identifier. -/
def register (registry : Registry sigma) (identifier : String) (start : sigma) :
    Registry sigma :=
  ⟨registry.makers.insert identifier start⟩

def ofList (entries : List (String × sigma)) : Registry sigma :=
  entries.foldl (fun registry entry => registry.register entry.1 entry.2) empty

def size (registry : Registry sigma) : Nat := registry.makers.size

def isEmpty (registry : Registry sigma) : Bool := registry.makers.isEmpty

def identifiers (registry : Registry sigma) : List String := registry.makers.keys

def isRegistered (registry : Registry sigma) (identifier : String) : Bool :=
  registry.makers.contains identifier

def instantiate (registry : Registry sigma) (identifier : String) : Outcome sigma :=
  match registry.makers.get? identifier with
  | some start => .ok start
  | none => .error (Fault.notRegistered identifier).toError

def toFactory (registry : Registry sigma) : Factory sigma where
  identifiers := registry.identifiers
  isRegistered := registry.isRegistered
  instantiate := registry.instantiate

/-- The description of a registry: the registered identifiers. -/
def describe (registry : Registry sigma) : String :=
  "ManagerRegistry \x7b identifiers: " ++ Text.quotedList registry.identifiers ++ " \x7d"

end Registry

/-- The factory that lists the entries' identifiers as they were given and makes what
was registered last. -/
def Factory.ofEntries {sigma : Type} (entries : List (String × sigma)) : Factory sigma where
  identifiers := entries.map Prod.fst
  isRegistered := fun identifier => (entries.map Prod.fst).any (· == identifier)
  instantiate := (Registry.ofList entries).instantiate

end AssetExchange
