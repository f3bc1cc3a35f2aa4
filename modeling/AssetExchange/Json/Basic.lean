import AssetExchange.Binary64.Basic
import AssetExchange.Dictionary

/-!
# Document values

The values of the interchange format in which requests and the data model are
written: null, truth values, numbers, strings, lists and objects. Integers and
double-precision numbers are kept apart, as they are in the text (`1` and `1.0`).
The fields of an object are listed in ascending order of their keys.
-/

namespace AssetExchange

/-- A document value. -/
inductive Json
  | null
  | bool (value : Bool)
  /-- A number written as an integer. -/
  | int (value : Int)
  /-- Any other number. -/
  | float (value : Binary64)
  | text (value : String)
  | list (items : List Json)
  /-- An object, its fields in ascending order of their keys. -/
  | object (fields : List (String × Json))

namespace Json

instance : Inhabited Json := ⟨.null⟩

/-- The value of a field; anything but an object has none. -/
def field? (key : String) : Json → Option Json
  | object fields => Entries.get? key fields
  | _ => none

def ofFields (fields : List (String × Json)) : Json :=
  object (Entries.ofList fields)

def ofDictionary {alpha : Type} (encode : alpha → Json)
    (dictionary : Dictionary alpha) : Json :=
  object (dictionary.map encode).entries

def ofOption {alpha : Type} (encode : alpha → Json) : Option alpha → Json
  | none => null
  | some value => encode value

def ofNat (value : Nat) : Json := int value

def ofTexts (texts : List String) : Json := list (texts.map text)

end Json
end AssetExchange
