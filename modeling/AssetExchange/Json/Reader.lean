import AssetExchange.Json.Basic
import AssetExchange.Text.Real
import AssetExchange.Word

/-!
# Reading document values

`Json.parse` reads one document value from a text. Integers that fit the signed or
the unsigned 64-bit range stay integers; every other number, and a zero with a
minus sign, becomes the nearest double-precision number. Of two fields with one
key the later one stays.
-/

namespace AssetExchange
namespace Json

/-! ## Blanks -/

/-- The characters after the blanks that may stand between tokens. -/
def skipBlanks (characters : List Char) : List Char :=
  characters.dropWhile fun character =>
    character == ' ' || character == '\t' || character == '\n' || character == '\r'

/-! ## Strings -/

/-- The character after a backslash, other than the one that introduces a code
unit. -/
def shortEscape? : Char → Option Nat
  | '"' => some 0x22
  | '\\' => some 0x5C
  | '/' => some 0x2F
  | 'b' => some 0x08
  | 'f' => some 0x0C
  | 'n' => some 0x0A
  | 'r' => some 0x0D
  | 't' => some 0x09
  | _ => none

/-- The code units up to the closing quote, and what follows it. -/
def readUnits : List Char → Option (List Nat × List Char)
  | [] => none
  | '"' :: rest => some ([], rest)
  | '\\' :: 'u' :: a :: b :: c :: d :: rest => do
      let unit ← Text.valueIn? 16 [a, b, c, d]
      let (units, after) ← readUnits rest
      return (unit :: units, after)
  | '\\' :: escaped :: rest => do
      let unit ← shortEscape? escaped
      let (units, after) ← readUnits rest
      return (unit :: units, after)
  | character :: rest =>
      if character.toNat < 0x20 then none
      else do
        let (units, after) ← readUnits rest
        return (character.toNat :: units, after)

/-- Joins the halves of characters that were written as two code units; a half
without its partner is refused. -/
def joinUnits : List Nat → Option (List Char)
  | [] => some []
  | [unit] =>
      if 0xD800 ≤ unit ∧ unit < 0xE000 then none else some [Char.ofNat unit]
  | high :: low :: rest =>
      if 0xD800 ≤ high ∧ high < 0xDC00 then
        if 0xDC00 ≤ low ∧ low < 0xE000 then
          (joinUnits rest).map
            (Char.ofNat (0x10000 + (high - 0xD800) * 0x400 + (low - 0xDC00)) :: ·)
        else none
      else if 0xDC00 ≤ high ∧ high < 0xE000 then none
      else (joinUnits (low :: rest)).map (Char.ofNat high :: ·)

def readString (characters : List Char) : Option (String × List Char) := do
  let (units, rest) ← readUnits characters
  let text ← joinUnits units
  return (String.ofList text, rest)

/-! ## Numbers -/

def ofInteger (negative : Bool) (magnitude : Nat) : Json :=
  if negative then
    if magnitude ≠ 0 ∧ magnitude ≤ signPlace then int (-magnitude)
    else float (.ofRatio true magnitude 1)
  else if magnitude < wordLimit then int magnitude
  else float (.ofRatio false magnitude 1)

/-- Reads a number whose minus sign has been taken off. -/
def readNumber (negative : Bool) (characters : List Char) :
    Option (Json × List Char) := do
  let (whole, afterWhole) := Text.takeDigits characters
  guard (!whole.isEmpty && (whole.length == 1 || whole.head? != some '0'))
  let (fraction, afterFraction) ←
    match afterWhole with
    | '.' :: rest =>
        let (digits, after) := Text.takeDigits rest
        if digits.isEmpty then none else some (digits, after)
    | _ => some ([], afterWhole)
  let (exponent, rest) ←
    match afterFraction with
    | 'e' :: after => (Text.takeExponent after).map fun (value, rest) => (some value, rest)
    | 'E' :: after => (Text.takeExponent after).map fun (value, rest) => (some value, rest)
    | _ => some (none, afterFraction)
  if fraction.isEmpty && exponent.isNone then
    return (ofInteger negative (Text.digitsValue whole), rest)
  else
    return (float (.ofDecimal negative (Text.digitsValue (whole ++ fraction))
      (exponent.getD 0 - fraction.length)), rest)

/-! ## Values -/

mutual

/-- Reads a value; the first argument bounds the nesting. -/
def readValue : Nat → List Char → Option (Json × List Char)
  | 0, _ => none
  | fuel + 1, characters =>
      match skipBlanks characters with
      | '"' :: rest => (readString rest).map fun (value, after) => (text value, after)
      | '[' :: rest =>
          match skipBlanks rest with
          | ']' :: after => some (list [], after)
          | _ => (readItems fuel rest).map fun (items, after) => (list items, after)
      | '\x7b' :: rest =>
          match skipBlanks rest with
          | '\x7d' :: after => some (object [], after)
          | _ => (readFields fuel rest).map fun (fields, after) =>
              (ofFields fields, after)
      | '-' :: rest => readNumber true rest
      | 'n' :: 'u' :: 'l' :: 'l' :: rest => some (null, rest)
      | 't' :: 'r' :: 'u' :: 'e' :: rest => some (bool true, rest)
      | 'f' :: 'a' :: 'l' :: 's' :: 'e' :: rest => some (bool false, rest)
      | other => readNumber false other

def readItems : Nat → List Char → Option (List Json × List Char)
  | 0, _ => none
  | fuel + 1, characters => do
      let (item, rest) ← readValue fuel characters
      match skipBlanks rest with
      | ',' :: more =>
          let (items, after) ← readItems fuel more
          return (item :: items, after)
      | ']' :: after => return ([item], after)
      | _ => none

def readFields : Nat → List Char → Option (List (String × Json) × List Char)
  | 0, _ => none
  | fuel + 1, characters =>
      match skipBlanks characters with
      | '"' :: rest => do
          let (key, afterKey) ← readString rest
          match skipBlanks afterKey with
          | ':' :: beforeValue =>
              let (value, afterValue) ← readValue fuel beforeValue
              match skipBlanks afterValue with
              | ',' :: more =>
                  let (fields, after) ← readFields fuel more
                  return ((key, value) :: fields, after)
              | '\x7d' :: after => return ([(key, value)], after)
              | _ => none
          | _ => none
      | _ => none

end

/-- Reads a text that is one document value with nothing but blanks around it. -/
def parse (source : String) : Option Json := do
  let characters := source.toList
  let (value, rest) ← readValue (characters.length + 1) characters
  if (skipBlanks rest).isEmpty then some value else none

end Json
end AssetExchange
