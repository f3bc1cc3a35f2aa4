import AssetExchange.Catalogue.Plugin
import AssetExchange.Plugin.Sum
import AssetExchange.Script

/-!
# Managers of any kind

The managers of this library under one interface: a manager is a catalogue or a
script, and its pagers are of the same kind. Only catalogues count the requests made
of them.
-/

namespace AssetExchange

abbrev AnyManager := Catalogue ⊕ Script

abbrev AnyPager := CataloguePager ⊕ ScriptPager

namespace AnyManager

def plugin : Plugin AnyManager AnyPager :=
  .sum Catalogue.plugin Script.plugin

def catalogue? : AnyManager → Option Catalogue
  | .inl catalogue => some catalogue
  | .inr _ => none

/-- How often each request was made of a manager. -/
def calls : AnyManager → Dictionary Nat
  | .inl catalogue => catalogue.calls
  | .inr _ => .empty

end AnyManager

def addCounts (first second : Dictionary Nat) : Dictionary Nat :=
  second.toList.foldl (fun counts entry => counts.alter entry.1 0 (· + entry.2)) first

end AssetExchange
