import AssetExchange.Json.Model

/-!
# Reading requests

A host can be told what to do by document values. A request is an object; its fields
are read one after the other, and the first one that cannot be read is the reason for
refusing the whole request. A field that is left out takes a default or is missed,
and a field that does not stand for a value of its type is reported as such.
-/

namespace AssetExchange
namespace Dialogue

/-- Why a request is refused before anything is done. -/
inductive Refusal
  /-- Something that the request needs or names does not exist. -/
  | badInput
  /-- A field does not stand for a value of its type. -/
  | decode (error : DecodeError)
deriving DecidableEq

/-- A value read from a request, unless the request is refused. -/
abbrev Read (alpha : Type) := Except Refusal alpha

variable {alpha : Type}

def decoded (result : Except DecodeError alpha) : Read alpha :=
  match result with
  | .ok value => .ok value
  | .error error => .error (.decode error)

def optional (decoder : Decoder alpha) (key : String) (request : Json) :
    Read (Option alpha) :=
  match request.field? key with
  | none => .ok none
  | some value => (decoded (decoder value)).map some

/-- Reads a field; without it the fallback is used. -/
def orElse (fallback : alpha) (decoder : Decoder alpha) (key : String)
    (request : Json) : Read alpha :=
  (optional decoder key request).map fun found => found.getD fallback

def required (decoder : Decoder alpha) (key : String) (request : Json) : Read alpha :=
  (optional decoder key request).bind fun
    | some value => .ok value
    | none => .error .badInput

/-- Reads a field that may be left out or null. -/
def nullable (decoder : Decoder alpha) (key : String) (request : Json) :
    Read (Option alpha) :=
  (optional (Decoder.optional decoder) key request).map Option.join

/-- A field that must be there, whatever it is. -/
def part (key : String) (request : Json) : Read Json :=
  match request.field? key with
  | some value => .ok value
  | none => .error .badInput

/-- The items of a list that may be left out. -/
def listOr (key : String) (request : Json) : Read (List Json) :=
  match request.field? key with
  | none => .ok []
  | some (.list items) => .ok items
  | some _ => .error (.decode .invalidType)

/-- The items of a list that must be there. -/
def listPart (key : String) (request : Json) : Read (List Json) :=
  (part key request).bind fun _ => listOr key request

/-- The entries of a dictionary that may be left out. -/
def entriesOr (decoder : Decoder alpha) (key : String) (request : Json) :
    Read (List (String × alpha)) :=
  (orElse .empty (Decoder.dictionary decoder) key request).map Dictionary.toList

/-! ## Frequent fields -/

/-- Reads a reference, whatever its text. -/
def reference : Decoder EntityReference :=
  fun value => (Decoder.text value).map EntityReference.mk

def references : Decoder (List EntityReference) := .list reference

def capabilityList : Decoder (List Capability) := .list (.enumerated Capability)

def text (key : String) (request : Json) : Read String :=
  required Decoder.text key request

def traits (key : String) (request : Json) : Read TraitSet :=
  orElse .empty Decoder.nameSet key request

def properties (key : String) (request : Json) : Read InfoDictionary :=
  orElse .empty InfoDictionary.decode key request

/-- An error of a call: its kind, what belongs to the kind, and its text. -/
def apiError (request : Json) : Read ApiError := do
  match ← text "kind" request with
  | "configuration" => return .configuration (← text "message" request)
  | "inputValidation" => return .inputValidation (← text "message" request)
  | "notImplemented" => return .notImplemented (← text "message" request)
  | "unhandled" => return .unhandled (← text "message" request)
  | "batchElement" =>
      let index ← required Decoder.word "index" request
      let element ← required BatchElementError.decode "element" request
      return .batchElement index element (← text "message" request)
  | _ => .error .badInput

/-- An error of a call that may be left out or null. -/
def apiErrorOr (key : String) (request : Json) : Read (Option ApiError) :=
  match request.field? key with
  | none | some .null => .ok none
  | some value => (apiError value).map some

end Dialogue
end AssetExchange
