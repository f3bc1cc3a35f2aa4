import AssetExchange.Error
import AssetExchange.Json.Decoder
import AssetExchange.TraitsData
import AssetExchange.Word

/-!
# The data model in documents

How property values, dictionaries, traits data, trait sets, named alternatives and
element errors are written as document values and read back. A property value is
written without a tag: an integer within 64 bits reads as an integer, any other
number as a double-precision number.
-/

namespace AssetExchange

/-! ## Property values, dictionaries and bundles -/

namespace PropertyValue

/-- The document value of a property value. A number that is not finite has none
and is written as null. -/
def encode : PropertyValue → Json
  | bool value => .bool value
  | int value => .int value.toInt
  | float value => if value.isFinite then .float value else .null
  | text value => .text value

def decode : Decoder PropertyValue
  | .bool value => .ok (bool value)
  | .int value =>
      if IsSignedWord value then .ok (int (Int64.ofInt value))
      else .ok (float (.ofInt value))
  | .float value => .ok (float value)
  | .text value => .ok (text value)
  | _ => .error .noPropertyValue

end PropertyValue

namespace InfoDictionary

def encode (dictionary : InfoDictionary) : Json :=
  .ofDictionary PropertyValue.encode dictionary

def decode : Decoder InfoDictionary :=
  Decoder.dictionary PropertyValue.decode

end InfoDictionary

namespace TraitsData

/-- The object of a bundle: an object of properties for each trait. -/
def encode (data : TraitsData) : Json :=
  .ofDictionary InfoDictionary.encode data.traits

def decode : Decoder TraitsData :=
  fun value => (Decoder.dictionary InfoDictionary.decode value).map TraitsData.mk

end TraitsData

def NameSet.encode (names : NameSet) : Json :=
  .ofTexts names.toList

/-! ## Named alternatives and errors -/

def Enumerated.encode {alpha : Type} [Enumerated alpha] (value : alpha) : Json :=
  .text (Enumerated.name value)

namespace BatchElementError

def encode (error : BatchElementError) : Json :=
  .ofFields [("code", Enumerated.encode error.code), ("message", .text error.message)]

/-- Reads an element error from an object or from the list of its parts. -/
def decode : Decoder BatchElementError
  | .object fields => do
      let code ← Decoder.field? (Decoder.enumerated ErrorCode) "code" fields
      let message ← Decoder.field? Decoder.text "message" fields
      return ⟨← Decoder.require "code" code, ← Decoder.require "message" message⟩
  | .list items => do
      let (code, others) ← Decoder.item? (Decoder.enumerated ErrorCode) items
      let code ← Decoder.requireItem code
      let (message, excess) ← Decoder.item? Decoder.text others
      let message ← Decoder.requireItem message
      Decoder.endOfList excess
      return ⟨code, message⟩
  | _ => .error .invalidType

end BatchElementError
end AssetExchange
