import AssetExchange.Binary64.Decimal
import AssetExchange.PropertyValue
import AssetExchange.Toml.Reader

/-!
# Writing configuration files

Keys, values and sections of a configuration file as they are written. A string takes
the form that needs the least escaping: a plain one on one line, then one without
escapes, then several lines, and escapes only where nothing else is possible.
-/

namespace AssetExchange
namespace Toml

/-! ## Strings -/

def longestRun (tested : Char) (characters : List Char) : Nat :=
  (characters.foldl
    (fun (longest, current) character =>
      if character = tested then (max longest (current + 1), current + 1)
      else (longest, 0))
    (0, 0)).1

/-- Whether a character can only be written as an escape. -/
def needsEscape (character : Char) : Bool :=
  !Text.isLiteral character && character != '\n'

/-- The four capital hexadecimal digits of a small code point. -/
def hexText (code : Nat) : List Char :=
  let digits := (Nat.toDigits 16 code).map Char.toUpper
  List.replicate (4 - digits.length) '0' ++ digits

/-- The escape of a character other than the quote and the end of the line; none for a
character that stands for itself. -/
def escape? : Char → Option (List Char)
  | '\x08' => some ['\\', 'b']
  | '\t' => some ['\\', 't']
  | '\x0c' => some ['\\', 'f']
  | '\r' => some ['\\', 'r']
  | '\\' => some ['\\', '\\']
  | other => if needsEscape other then some ('\\' :: 'u' :: hexText other.toNat) else none

def escapeLine (characters : List Char) : List Char :=
  characters.flatMap fun character =>
    if character = '"' then ['\\', '"']
    else if character = '\n' then ['\\', 'n']
    else (escape? character).getD [character]

/-- The characters of a string of several lines between double quotes: of a run of
quotes every third one is escaped. The first argument counts the quotes since the last
character of another kind or the last escape. -/
def escapeLines : Nat → List Char → List Char
  | _, [] => []
  | quotes, character :: rest =>
      if character = '"' then
        if quotes = 2 then '\\' :: '"' :: escapeLines 0 rest
        else '"' :: escapeLines (quotes + 1) rest
      else (escape? character).getD [character] ++ escapeLines 0 rest

/-- How a string is written. -/
inductive TextForm
  | line
  | literal
  /-- On several lines between double quotes. -/
  | lines
  | literalLines
deriving DecidableEq

def textForm (characters : List Char) : TextForm :=
  let escaped := characters.any needsEscape
  let marked := characters.contains '\\'
  let broken := characters.contains '\n'
  let doubles := longestRun '"' characters
  let singles := longestRun '\'' characters
  if !escaped && !marked && doubles == 0 && !broken then .line
  else if !escaped && singles == 0 && !broken then .literal
  else if !escaped && !marked && doubles ≤ 2 then .lines
  else if !escaped && singles ≤ 2 then .literalLines
  else if broken then .lines
  else .line

/-- The end of the line that follows opening quotes when the string has ends of lines
of its own. -/
def openingLine (characters : List Char) : List Char :=
  if characters.contains '\n' then ['\n'] else []

/-- The text of a string in a given form. -/
def writeText (characters : List Char) : TextForm → List Char
  | .line => '"' :: escapeLine characters ++ ['"']
  | .literal => '\'' :: characters ++ ['\'']
  | .lines =>
      '"' :: '"' :: '"' :: openingLine characters ++ escapeLines 0 characters ++
        ['"', '"', '"']
  | .literalLines =>
      '\'' :: '\'' :: '\'' :: openingLine characters ++ characters ++ ['\'', '\'', '\'']

def renderText (value : String) : String :=
  String.ofList (writeText value.toList (textForm value.toList))

/-! ## Keys, values and sections -/

/-- The form that a quoted key takes; it is always on one line. -/
def keyForm (characters : List Char) : TextForm :=
  let escaped := characters.any fun character => needsEscape character || character == '\n'
  if !escaped && !characters.contains '\\' && !characters.contains '"' then .line
  else if !escaped && !characters.contains '\'' then .literal
  else .line

/-- The text of a key, in quotes unless it is a bare one. -/
def renderKey (key : String) : String :=
  let characters := key.toList
  if characters ≠ [] ∧ characters.all isKeyCharacter then key
  else String.ofList (writeText characters (keyForm characters))

def renderValue : PropertyValue → String
  | .bool value => if value then "true" else "false"
  | .int value => toString value.toInt
  | .float value => value.pointed
  | .text value => renderText value

def renderEntry (key : String) (value : PropertyValue) : String :=
  renderKey key ++ " = " ++ renderValue value

/-- A section: its header and its entries, each on lines of its own. -/
def renderSection (header : String) (entries : List String) : String :=
  String.join ((("[" ++ header ++ "]") :: entries).map (· ++ "\n"))

end Toml
end AssetExchange
