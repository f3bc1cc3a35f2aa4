import AssetExchange.Config.Document
import AssetExchange.Text.Blank
import AssetExchange.Text.Escaped
import AssetExchange.Text.Piece
import AssetExchange.Text.Real
import AssetExchange.Word

/-!
# Configuration from environment variables

A variable whose name begins with `ASSETIO__`, in capitals or small letters, sets one
value of the configuration. The rest of the name, in small letters, is the path of
keys; two underscores stand between keys. The text of the variable is read as a value
if it is one: a truth value, a list, a table, a quoted string, a quoted character, a
number or a bare string. A text that is not one value from end to end is a string as
it stands.
-/

namespace AssetExchange
namespace Environment

/-! ## Names -/

def beginning : String := "ASSETIO__"

def separator : String := "__"

/-- The keys of a path, given what follows the beginning of a name in small letters. A
point separates keys, too, and blanks around the whole path do not count. -/
def keys (characters : List Char) : List String :=
  let path := Text.trimBlanks (Text.replaceAll separator.toList ['.'] characters)
  (Text.pieces ['.'] path).map String.ofList

/-- The path of keys that a variable sets. Names that begin differently set nothing,
and neither do names with an empty key. -/
def path? (name : String) : Option (List String) :=
  let characters := (Text.trimBlanks name.toList).map Char.toLower
  match Text.afterPrefix? (Text.lowerAscii beginning).toList characters with
  | none => none
  | some rest =>
      let path := keys rest
      if path.any String.isEmpty then none else some path

/-! ## Values -/

def isSeparator (character : Char) : Bool :=
  character == ',' || character == '\x7b' || character == '\x7d' ||
    character == '[' || character == ']'

def isKeyCharacter (character : Char) : Bool :=
  character.isAlphanum || character == '_' || character == '-'

/-- The value of a bare text: a number with a point, an unsigned or a signed integer
of 64 bits, or a string. -/
def bareValue (characters : List Char) : Document :=
  match (if characters.contains '.' then Text.real? characters else none) with
  | some value => .float value
  | none =>
      match Text.unsigned? wordLimit characters with
      | some value => .unsigned value
      | none =>
          match Text.signed? signPlace characters with
          | some value => .signed value
          | none => .text (String.ofList characters)

def skipBlanks (characters : List Char) : List Char :=
  characters.dropWhile Text.isAsciiBlank

def readKey (characters : List Char) : Option (String × List Char) :=
  match characters with
  | '"' :: rest => (Text.readEscaped rest).map fun (key, after) => (String.ofList key, after)
  | _ =>
      let key := characters.takeWhile isKeyCharacter
      if key.isEmpty then none
      else some (String.ofList key, characters.dropWhile isKeyCharacter)

mutual

/-- Reads a value and the blanks around it; the first argument bounds the nesting. -/
def readValue : Nat → List Char → Option (Document × List Char)
  | 0, _ => none
  | fuel + 1, characters => do
      let (value, rest) ←
        match skipBlanks characters with
        | 't' :: 'r' :: 'u' :: 'e' :: rest => some (.bool true, rest)
        | 'f' :: 'a' :: 'l' :: 's' :: 'e' :: rest => some (.bool false, rest)
        | '[' :: rest =>
            (readItems fuel rest).map fun (items, after) => (.list items, after)
        | '\x7b' :: rest =>
            (readFields fuel rest).map fun (fields, after) => (.ofFields fields, after)
        | '"' :: rest =>
            (Text.readEscaped rest).map fun (value, after) =>
              (.text (String.ofList value), after)
        | '\'' :: value :: '\'' :: rest => some (.character value, rest)
        | '\'' :: _ => none
        | bare =>
            some (bareValue (Text.trimBlanks (bare.takeWhile (!isSeparator ·))),
              bare.dropWhile (!isSeparator ·))
      return (value, skipBlanks rest)

def readItems : Nat → List Char → Option (List Document × List Char)
  | 0, _ => none
  | _, ']' :: rest => some ([], rest)
  | fuel + 1, characters => do
      let (item, rest) ← readValue fuel characters
      match rest with
      | ',' :: more =>
          let (items, after) ← readItems fuel more
          return (item :: items, after)
      | ']' :: after => return ([item], after)
      | _ => none

def readFields : Nat → List Char → Option (List (String × Document) × List Char)
  | 0, _ => none
  | _, '\x7d' :: rest => some ([], rest)
  | fuel + 1, characters => do
      let (key, afterKey) ← readKey (skipBlanks characters)
      match skipBlanks afterKey with
      | '=' :: beforeValue =>
          let (value, rest) ← readValue fuel beforeValue
          match rest with
          | ',' :: more =>
              let (fields, after) ← readFields fuel more
              return ((key, value) :: fields, after)
          | '\x7d' :: after => return ([(key, value)], after)
          | _ => none
      | _ => none

end

/-- The value that the text of a variable stands for. -/
def value (source : String) : Document :=
  let characters := source.toList
  match readValue (2 * characters.length + 2) characters with
  | some (value, []) => value
  | _ => .text source

/-! ## Layers -/

/-- The layer of configuration that one variable is, if it sets a value. -/
def layerOf? (setting : String × String) : Option Document :=
  (path? setting.1).map (Document.atPath (value setting.2))

/-- The layer of configuration that variables are, each laid over the ones before. -/
def layer (bindings : List (String × String)) : Document :=
  .ofLayers (bindings.filterMap layerOf?)

end Environment
end AssetExchange
