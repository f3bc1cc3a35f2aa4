import AssetExchange.Pager.Chunks
import AssetExchange.Plugin.Basic
import AssetExchange.Text.Numeral
import AssetExchange.Text.Piece
import AssetExchange.Word

/-!
# Catalogues

A catalogue is a manager that keeps its entities in memory and answers from them
alone. It counts the requests made of it, numbers the states it makes for contexts,
and counts the pagers that were closed. A reference can be given an error that every
batch request reports for it.

This module holds the state of a catalogue and what it says about one element;
`Catalogue.Plugin` makes a manager of it.
-/

namespace AssetExchange

/-- The order in which a catalogue reports the elements of a batch. -/
inductive CallbackOrder
  | forward
  | reverse
  /-- All elements at once; reported in the order of the batch, which is one of the
  orders this admits. -/
  | threaded
deriving DecidableEq

namespace CallbackOrder

def name : CallbackOrder → String
  | forward => "forward"
  | reverse => "reverse"
  | threaded => "threaded"

instance : Enumerated CallbackOrder where
  values := [forward, reverse, threaded]
  name := name
  mem_values := by intro value; cases value <;> decide
  name_injective := by intro first second; cases first <;> cases second <;> decide

def arrange {alpha : Type} : CallbackOrder → List alpha → List alpha
  | reverse, items => items.reverse
  | forward, items | threaded, items => items

end CallbackOrder

/-- A manager that answers from memory. -/
structure Catalogue where
  identifier : String
  capabilities : List Capability
  /-- What it supports once it has been prepared, if that differs. -/
  laterCapabilities : Option (List Capability)
  info : InfoDictionary
  /-- Strings that begin like this are references. -/
  scheme : String
  entities : Dictionary TraitsData
  elementErrors : Dictionary BatchElementError
  /-- Related references, by reference and relationship trait. -/
  relations : Dictionary (Dictionary (List EntityReference))
  /-- The policy for every trait set. -/
  policy : TraitsData
  terminology : Terminology
  order : CallbackOrder
  /-- The error with which every batch request fails as a whole. -/
  callFailure : Option ApiError
  /-- The error with which it refuses to be prepared. -/
  prepareFailure : Option ApiError
  /-- The settings it was prepared with. -/
  settings : InfoDictionary
  nextState : Nat
  closedPagers : Nat
  calls : Dictionary Nat
deriving DecidableEq

/-- A pager over a fixed list of pages. -/
structure CataloguePager where
  pages : List (List EntityReference)
  current : Nat
deriving DecidableEq

/-- Writes one count over another: how much each count has grown, for those that
have. -/
def countsSince (before after : Dictionary Nat) : Dictionary Nat :=
  .ofList (after.toList.filterMap fun (name, count) =>
    let grown := count - (before.get? name).getD 0
    if grown = 0 then none else some (name, grown))

namespace Catalogue

/-- The key under which a manager publishes the beginning of its references. -/
def schemeKey : String := "entityReferencesMatchPrefix"

/-- What the tokens of states begin with. -/
def tokenBeginning : String := "stub-state:"

/-- What a catalogue supports unless told otherwise. -/
def usualCapabilities : List Capability :=
  [.entityReferenceIdentification, .managementPolicyQueries,
    .entityTraitIntrospection, .resolution, .publishing, .existenceQueries,
    .relationshipQueries, .defaultEntityReferences]

def named (identifier : String) : Catalogue where
  identifier := identifier
  capabilities := usualCapabilities
  laterCapabilities := none
  info := .empty
  scheme := "stub://"
  entities := .empty
  elementErrors := .empty
  relations := .empty
  policy := .empty
  terminology := .empty
  order := .forward
  callFailure := none
  prepareFailure := none
  settings := .empty
  nextState := 1
  closedPagers := 0
  calls := .empty

/-! ## Setting a catalogue up -/

def withCapability (catalogue : Catalogue) (capability : Capability) : Catalogue :=
  { catalogue with capabilities := catalogue.capabilities ++ [capability] }

def withoutCapability (catalogue : Catalogue) (capability : Capability) : Catalogue :=
  { catalogue with capabilities := catalogue.capabilities.filter (· ≠ capability) }

def withInfo (catalogue : Catalogue) (key : String) (value : PropertyValue) :
    Catalogue :=
  { catalogue with info := catalogue.info.insert key value }

def withScheme (catalogue : Catalogue) (scheme : String) : Catalogue :=
  { catalogue with scheme := scheme }

/-- Publishes what references begin with. -/
def withPublishedScheme (catalogue : Catalogue) : Catalogue :=
  catalogue.withInfo schemeKey (.text catalogue.scheme)

def withEntity (catalogue : Catalogue) (reference : String) (data : TraitsData) :
    Catalogue :=
  { catalogue with entities := catalogue.entities.insert reference data }

/-- Gives a reference an error that every batch request reports for it. -/
def withElementError (catalogue : Catalogue) (reference : String)
    (error : BatchElementError) : Catalogue :=
  { catalogue with elementErrors := catalogue.elementErrors.insert reference error }

/-- States what is related to a reference through a relationship trait. -/
def withRelations (catalogue : Catalogue) (reference trait : String)
    (related : List EntityReference) : Catalogue :=
  { catalogue with
    relations := catalogue.relations.alter reference .empty (·.insert trait related) }

def withTerm (catalogue : Catalogue) (term replacement : String) : Catalogue :=
  { catalogue with terminology := catalogue.terminology.insert term replacement }

/-! ## What a catalogue knows -/

def recordCall (catalogue : Catalogue) (call : Call) : Catalogue :=
  { catalogue with calls := catalogue.calls.alter call.name 0 (· + 1) }

def callCount (catalogue : Catalogue) (name : String) : Nat :=
  (catalogue.calls.get? name).getD 0

def entity? (catalogue : Catalogue) (reference : String) : Option TraitsData :=
  catalogue.entities.get? reference

def notFound (reference : EntityReference) : BatchElementError :=
  ⟨.invalidEntityReference, "Entity '" ++ reference.text ++ "' not found"⟩

/-- The value for a reference, unless an error was given to it. -/
def unlessError {alpha : Type} (catalogue : Catalogue) (reference : EntityReference)
    (outcome : ElementOutcome alpha) : ElementOutcome alpha :=
  match catalogue.elementErrors.get? reference.text with
  | some error => .error error
  | none => outcome

/-- The data for a reference: an error given to it comes first. -/
def lookUp (catalogue : Catalogue) (reference : EntityReference) :
    ElementOutcome TraitsData :=
  catalogue.unlessError reference <|
    match catalogue.entity? reference.text with
    | some data => .ok data
    | none => .error (notFound reference)

/-- The smallest reference whose entity has every trait of a set. -/
def defaultReference? (catalogue : Catalogue) (traits : TraitSet) :
    Option EntityReference :=
  (catalogue.entities.toList.find? fun entry => traits.isSubset entry.2.traitSet).map
    fun entry => ⟨entry.1⟩

/-- What is related to a reference: the list of the smallest trait of the
relationship that has one. -/
def related (catalogue : Catalogue) (reference : EntityReference)
    (relationship : TraitsData) : List EntityReference :=
  (relationship.traitSet.toList.findSome?
    ((catalogue.relations.get? reference.text).getD .empty).get?).getD []

/-- A pager over what is related to a reference, at its first page. -/
def pagerFor (catalogue : Catalogue) (reference : EntityReference)
    (relationship : TraitsData) (pageSize : Nat) : CataloguePager :=
  ⟨chunks pageSize (catalogue.related reference relationship), 0⟩

def token (id : Nat) : String :=
  tokenBeginning ++ Text.decimal id

def tokenNumber? (text : String) : Option Nat :=
  (Text.afterPrefix? tokenBeginning.toList text.toList).bind (Text.unsigned? wordLimit)

/-- Replaces the values of the terms for which the catalogue has its own. -/
def replaceTerms (catalogue : Catalogue) (terms : Terminology) : Terminology :=
  ⟨terms.entries.map fun entry =>
      (entry.1, (catalogue.terminology.get? entry.1).getD entry.2),
    by simpa [Entries.Ascending, List.pairwise_map] using terms.ascending⟩

end Catalogue

namespace CataloguePager

def hasNext (pager : CataloguePager) : Bool :=
  pager.current + 1 < pager.pages.length

/-- The current page; empty beyond the last one. -/
def page (pager : CataloguePager) : List EntityReference :=
  pager.pages[pager.current]?.getD []

def next (pager : CataloguePager) : CataloguePager :=
  { pager with current := pager.current + 1 }

end CataloguePager
end AssetExchange
