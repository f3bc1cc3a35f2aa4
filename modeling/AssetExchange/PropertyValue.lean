import AssetExchange.Binary64.Decimal
import AssetExchange.Dictionary
import AssetExchange.Text.Quoted

/-!
# Property values

The simple values of trait properties, settings and info dictionaries. The four
kinds stay apart: an integer never equals a double-precision number, and a string
is never read as anything else.
-/

namespace AssetExchange

/-- A truth value, an integer of 64 bits, a double-precision number or a string. -/
inductive PropertyValue
  | bool (value : Bool)
  | int (value : Int64)
  | float (value : Binary64)
  | text (value : String)
deriving DecidableEq

/-- Settings of managers and their information about themselves. -/
abbrev InfoDictionary := Dictionary PropertyValue

/-- Terms and their replacements. -/
abbrev Terminology := Dictionary String

namespace PropertyValue

def kindName : PropertyValue → String
  | bool _ => "bool"
  | int _ => "int"
  | float _ => "float"
  | text _ => "string"

def bool? : PropertyValue → Option Bool
  | bool value => some value
  | _ => none

def int? : PropertyValue → Option Int64
  | int value => some value
  | _ => none

def float? : PropertyValue → Option Binary64
  | float value => some value
  | _ => none

def text? : PropertyValue → Option String
  | text value => some value
  | _ => none

/-- Equality of values: kinds never mix, and numbers compare numerically. -/
def equals : PropertyValue → PropertyValue → Bool
  | bool first, bool second => first == second
  | int first, int second => first == second
  | float first, float second => first.equals second
  | text first, text second => first == second
  | _, _ => false

/-- Whether a value is a pattern that stands for no number. -/
def isNaN : PropertyValue → Bool
  | float value => value.isNaN
  | _ => false

def describe : PropertyValue → String
  | bool value => "Bool(" ++ (if value then "true" else "false") ++ ")"
  | int value => "Int(" ++ toString value.toInt ++ ")"
  | float value => "Float(" ++ value.general ++ ")"
  | text value => "Str(" ++ Text.quoted value ++ ")"

end PropertyValue

def InfoDictionary.equals (first second : InfoDictionary) : Bool :=
  first.allMatch PropertyValue.equals second

end AssetExchange
