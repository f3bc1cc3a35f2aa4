import AssetExchange.Json.Basic
import AssetExchange.Binary64.Decimal

/-!
# Writing document values

`Json.render` writes a document value without blanks. Only quotes, backslashes and
control characters below the space are escaped in strings.
-/

namespace AssetExchange
namespace Json

/-- The spelling of one character inside a string. -/
def escapedCharacter (character : Char) : List Char :=
  match character with
  | '"' => ['\\', '"']
  | '\\' => ['\\', '\\']
  | '\x08' => ['\\', 'b']
  | '\t' => ['\\', 't']
  | '\n' => ['\\', 'n']
  | '\x0c' => ['\\', 'f']
  | '\r' => ['\\', 'r']
  | other =>
      if other.toNat < 0x20 then
        ['\\', 'u', '0', '0', Nat.digitChar (other.toNat / 16),
          Nat.digitChar (other.toNat % 16)]
      else [other]

def renderText (value : String) : String :=
  String.ofList ('"' :: (value.toList.flatMap escapedCharacter ++ ['"']))

mutual

/-- The text of a document value, without blanks. -/
def render : Json → String
  | null => "null"
  | bool value => if value then "true" else "false"
  | int value => toString value
  | float value => value.general
  | text value => renderText value
  | list items => "[" ++ String.intercalate "," (renderItems items) ++ "]"
  | object fields => "\x7b" ++ String.intercalate "," (renderFields fields) ++ "\x7d"

def renderItems : List Json → List String
  | [] => []
  | item :: rest => render item :: renderItems rest

def renderFields : List (String × Json) → List String
  | [] => []
  | (key, value) :: rest => (renderText key ++ ":" ++ render value) :: renderFields rest

end

end Json
end AssetExchange
