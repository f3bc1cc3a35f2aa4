import AssetExchange.Enumerated
import AssetExchange.Json.Basic
import AssetExchange.NameSet
import AssetExchange.Text.Piece
import AssetExchange.Word

/-!
# Decoding document values

A decoder reads a value of some type from a document value or gives the reason why
it cannot. The decoders here cover simple values, lists, dictionaries and named
alternatives; an alternative is written as its name or as an object that binds its
name to null.
-/

namespace AssetExchange

/-- Why a document value does not stand for a value of a type. -/
inductive DecodeError
  | invalidType
  /-- The kind is right but the value is out of range. -/
  | invalidValue
  /-- A list has too few or too many items. -/
  | invalidLength
  | missingField (name : String)
  | unknownVariant (name : String) (expected : List String)
  /-- The value is none of the kinds that a property can have. -/
  | noPropertyValue
deriving DecidableEq

namespace DecodeError

def marked (name : String) : String := "`" ++ name ++ "`"

def expectation : List String → String
  | [] => "there are no variants"
  | [only] => "expected " ++ marked only
  | [first, second] => "expected " ++ marked first ++ " or " ++ marked second
  | names => "expected one of " ++ String.intercalate ", " (names.map marked)

def message : DecodeError → String
  | invalidType => "invalid type"
  | invalidValue => "invalid value"
  | invalidLength => "invalid length"
  | missingField name => "missing field " ++ marked name
  | unknownVariant name expected =>
      "unknown variant " ++ marked name ++ ", " ++ expectation expected
  | noPropertyValue => "data did not match any variant of untagged enum PropertyValue"

end DecodeError

/-- A reader of values of a type. -/
abbrev Decoder (alpha : Type) := Json → Except DecodeError alpha

namespace Decoder

variable {alpha : Type}

def bool : Decoder Bool
  | .bool value => .ok value
  | _ => .error .invalidType

def text : Decoder String
  | .text value => .ok value
  | _ => .error .invalidType

def intBetween (low high : Int) : Decoder Int
  | .int value =>
      if low ≤ value ∧ value < high then .ok value else .error .invalidValue
  | _ => .error .invalidType

def natBelow (bound : Nat) : Decoder Nat :=
  fun value => (intBetween 0 bound value).map Int.toNat

def word : Decoder Nat := natBelow wordLimit

def optional (decode : Decoder alpha) : Decoder (Option alpha)
  | .null => .ok none
  | value => (decode value).map some

def list (decode : Decoder alpha) : Decoder (List alpha)
  | .list items => items.mapM decode
  | _ => .error .invalidType

/-- Reads the value of every field, in the order of the keys. -/
def entries (decode : Decoder alpha) :
    List (String × Json) → Except DecodeError (List (String × alpha))
  | [] => .ok []
  | (key, value) :: rest => do
      let decoded ← decode value
      let others ← entries decode rest
      return (key, decoded) :: others

def dictionary (decode : Decoder alpha) : Decoder (Dictionary alpha)
  | .object fields => (entries decode fields).map Dictionary.ofList
  | _ => .error .invalidType

def nameSet : Decoder NameSet :=
  fun value => (list text value).map NameSet.ofList

def byName (alpha : Type) [Enumerated alpha] (name : String) :
    Except DecodeError alpha :=
  match Enumerated.named? alpha name with
  | some value => .ok value
  | none => .error (.unknownVariant name (Enumerated.names alpha))

def enumerated (alpha : Type) [Enumerated alpha] : Decoder alpha
  | .text name => byName alpha name
  | .object [(name, content)] => do
      let value ← byName alpha name
      match content with
      | .null => return value
      | _ => .error .invalidType
  | .object _ => .error .invalidValue
  | _ => .error .invalidType

/-- Reads a field of an object, if it is there. -/
def field? (decode : Decoder alpha) (key : String)
    (fields : List (String × Json)) : Except DecodeError (Option alpha) :=
  match Entries.get? key fields with
  | none => .ok none
  | some value => (decode value).map some

/-- Reads the next item of a list, if there is one; returns the items after it. -/
def item? (decode : Decoder alpha) :
    List Json → Except DecodeError (Option alpha × List Json)
  | [] => .ok (none, [])
  | first :: rest => (decode first).map fun value => (some value, rest)

/-- Insists on an item that has been looked up. -/
def requireItem (found : Option alpha) : Except DecodeError alpha :=
  match found with
  | some value => .ok value
  | none => .error .invalidLength

def endOfList (rest : List Json) : Except DecodeError Unit :=
  if rest.isEmpty then .ok () else .error .invalidLength

/-- Insists on a field that has been looked up. -/
def require (key : String) (found : Option alpha) : Except DecodeError alpha :=
  match found with
  | some value => .ok value
  | none => .error (.missingField key)

end Decoder
end AssetExchange
