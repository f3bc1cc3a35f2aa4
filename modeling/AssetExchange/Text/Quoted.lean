import AssetExchange.Text.Hidden

/-!
# Quoted text

The form in which descriptions and messages show a string: between double quotes,
with quotes and backslashes marked, the usual short forms for tab, line feed,
carriage return and NUL, and every other hidden character spelled by its code
point in lower-case hexadecimal digits between braces.
-/

namespace AssetExchange
namespace Text

def quotedCharacter (character : Char) : List Char :=
  match character with
  | '\x00' => ['\\', '0']
  | '\t' => ['\\', 't']
  | '\n' => ['\\', 'n']
  | '\r' => ['\\', 'r']
  | '\\' => ['\\', '\\']
  | '"' => ['\\', '"']
  | other =>
      if isHidden other then
        ['\\', 'u', '\x7b'] ++ Nat.toDigits 16 other.toNat ++ ['\x7d']
      else [other]

def quoted (text : String) : String :=
  String.ofList ('"' :: (text.toList.flatMap quotedCharacter ++ ['"']))

def quotedList (texts : List String) : String :=
  "[" ++ String.intercalate ", " (texts.map quoted) ++ "]"

end Text
end AssetExchange
