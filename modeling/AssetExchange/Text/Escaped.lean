import AssetExchange.Text.Numeral

/-!
# Quoted values in configuration

Strings between double quotes as configuration files and environment variables write
them. A backslash introduces a short form or the code point of a character in four or
eight hexadecimal digits; control characters other than the tab must be written in
that way.
-/

namespace AssetExchange
namespace Text

/-- Whether a character may stand for itself inside a string. -/
def isLiteral (character : Char) : Bool :=
  character == '\t' || (0x20 ≤ character.toNat && character.toNat != 0x7F)

/-- The character of a code point; halves of surrogate pairs are none. -/
def ofCodePoint? (code : Nat) : Option Char :=
  if code < 0xD800 ∨ (0xDFFF < code ∧ code < 0x110000) then some (Char.ofNat code)
  else none

def ofHexDigits? (digits : List Char) : Option Char :=
  (valueIn? 16 digits).bind ofCodePoint?

def ofShortForm? : Char → Option Char
  | 'b' => some '\x08'
  | 't' => some '\t'
  | 'n' => some '\n'
  | 'f' => some '\x0c'
  | 'r' => some '\r'
  | '"' => some '"'
  | '\\' => some '\\'
  | _ => none

/-- Reads the rest of a string on one line after its opening quote. -/
def readEscaped : List Char → Option (List Char × List Char)
  | [] => none
  | '"' :: rest => some ([], rest)
  | '\\' :: 'u' :: a :: b :: c :: d :: rest => do
      let character ← ofHexDigits? [a, b, c, d]
      let (characters, after) ← readEscaped rest
      return (character :: characters, after)
  | '\\' :: 'U' :: a :: b :: c :: d :: e :: f :: g :: h :: rest => do
      let character ← ofHexDigits? [a, b, c, d, e, f, g, h]
      let (characters, after) ← readEscaped rest
      return (character :: characters, after)
  | '\\' :: form :: rest => do
      let character ← ofShortForm? form
      let (characters, after) ← readEscaped rest
      return (character :: characters, after)
  | character :: rest =>
      if isLiteral character then do
        let (characters, after) ← readEscaped rest
        return (character :: characters, after)
      else none

end Text
end AssetExchange
