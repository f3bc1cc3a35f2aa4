import AssetExchange.TraitsData

/-!
# Contexts

A context describes the environment of a sequence of calls: a locale, and the state
that a manager may have attached to it. Copies of a context have a locale of their
own and share the state.
-/

namespace AssetExchange

/-- State attached to a context. -/
inductive ContextState
  /-- A numbered state, with the number of the state it was derived from. -/
  | numbered (id : Nat) (parent : Option Nat)
  /-- State that only some other kind of manager understands. -/
  | foreign
deriving DecidableEq

/-- The environment of a sequence of calls. -/
structure Context where
  /-- Traits of the place in the host where the calls originate. -/
  locale : TraitsData
  state : Option ContextState
deriving DecidableEq

namespace Context

def empty : Context := ⟨.empty, none⟩

def ofLocale (locale : TraitsData) : Context := ⟨locale, none⟩

def hasState (context : Context) : Bool := context.state.isSome

end Context
end AssetExchange
