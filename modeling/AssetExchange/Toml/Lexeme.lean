import AssetExchange.Text.Escaped

/-!
# Configuration files: blanks, comments and strings

The smallest parts of a configuration file. A line ends with a line feed, which a
carriage return may precede; no other control character but the tab may stand anywhere.
Strings come in four forms: with or without escapes, and on one line or several.
-/

namespace AssetExchange
namespace Toml

/-! ## Blanks and lines -/

/-- Whether a character is a blank within a line. -/
def isBlank (character : Char) : Bool := character == ' ' || character == '\t'

def skipBlanks (characters : List Char) : List Char := characters.dropWhile isBlank

def afterNewline? : List Char → Option (List Char)
  | '\n' :: rest => some rest
  | '\r' :: '\n' :: rest => some rest
  | _ => none

/-- What follows a line whose meaningful part has been read: blanks and a comment may
still stand on it. -/
def endLine? (characters : List Char) : Option (List Char) :=
  let trailing :=
    match skipBlanks characters with
    | '#' :: rest => rest.dropWhile Text.isLiteral
    | other => other
  if trailing.isEmpty then some [] else afterNewline? trailing

/-- The characters after blanks, ends of lines and comments; the first argument says
whether a comment has begun. -/
def skipFiller (inComment : Bool) : List Char → List Char
  | [] => []
  | '\n' :: rest => skipFiller false rest
  | '\r' :: '\n' :: rest => skipFiller false rest
  | character :: rest =>
      if inComment then
        if Text.isLiteral character then skipFiller true rest else character :: rest
      else if character = '#' then skipFiller true rest
      else if isBlank character then skipFiller false rest
      else character :: rest

/-! ## Strings -/

def endsLine (characters : List Char) : Bool :=
  (afterNewline? (skipBlanks characters)).isSome

/-- The quotes that belong to a string of several lines although they stand at its
closing quotes, and what follows them: at most two. -/
def extraQuotes (quote : Char) : List Char → List Char × List Char
  | first :: second :: rest =>
      if first = quote then
        if second = quote then ([quote, quote], rest) else ([quote], second :: rest)
      else ([], first :: second :: rest)
  | [only] => if only = quote then ([quote], []) else ([], [only])
  | [] => ([], [])

/-- Reads the rest of a string of several lines with escapes. A backslash at the end of
a line removes the end of the line and all blanks and ends of lines after it; the first
argument says whether such blanks are being removed. -/
def readLines (removing : Bool) : List Char → Option (List Char × List Char)
  | [] => none
  | '"' :: '"' :: '"' :: rest => some (extraQuotes '"' rest)
  | '\\' :: 'u' :: a :: b :: c :: d :: rest => do
      let character ← Text.ofHexDigits? [a, b, c, d]
      let (characters, after) ← readLines false rest
      return (character :: characters, after)
  | '\\' :: 'U' :: a :: b :: c :: d :: e :: f :: g :: h :: rest => do
      let character ← Text.ofHexDigits? [a, b, c, d, e, f, g, h]
      let (characters, after) ← readLines false rest
      return (character :: characters, after)
  | '\\' :: form :: rest =>
      if form = '\n' then readLines true rest
      else if (form = '\r' || isBlank form) && endsLine (form :: rest) then
        readLines true rest
      else do
        let character ← Text.ofShortForm? form
        let (characters, after) ← readLines false rest
        return (character :: characters, after)
  | '\n' :: rest =>
      if removing then readLines true rest
      else (readLines false rest).map fun (characters, after) => ('\n' :: characters, after)
  | '\r' :: '\n' :: rest =>
      if removing then readLines true rest
      else (readLines false rest).map fun (characters, after) => ('\n' :: characters, after)
  | character :: rest =>
      if removing && isBlank character then readLines true rest
      else if Text.isLiteral character then
        (readLines false rest).map fun (characters, after) =>
          (character :: characters, after)
      else none

/-- Reads the rest of a string of several lines without escapes. -/
def readLiteralLines : List Char → Option (List Char × List Char)
  | [] => none
  | '\'' :: '\'' :: '\'' :: rest => some (extraQuotes '\'' rest)
  | '\r' :: '\n' :: rest =>
      (readLiteralLines rest).map fun (characters, after) => ('\n' :: characters, after)
  | character :: rest =>
      if character = '\n' || Text.isLiteral character then
        (readLiteralLines rest).map fun (characters, after) =>
          (character :: characters, after)
      else none

def readLiteral (characters : List Char) : Option (List Char × List Char) :=
  let plain := fun character => character != '\'' && Text.isLiteral character
  match characters.dropWhile plain with
  | '\'' :: rest => some (characters.takeWhile plain, rest)
  | _ => none

/-- The characters after an end of a line that may stand at the front. -/
def skipNewline (characters : List Char) : List Char :=
  (afterNewline? characters).getD characters

def readLineText : List Char → Option (String × List Char)
  | '"' :: rest =>
      (Text.readEscaped rest).map fun (value, after) => (String.ofList value, after)
  | '\'' :: rest =>
      (readLiteral rest).map fun (value, after) => (String.ofList value, after)
  | _ => none

/-- Reads a string of any form. The end of the line directly after the opening quotes
of a string of several lines does not belong to it. -/
def readText : List Char → Option (String × List Char)
  | '"' :: '"' :: '"' :: rest =>
      (readLines false (skipNewline rest)).map fun (value, after) =>
        (String.ofList value, after)
  | '\'' :: '\'' :: '\'' :: rest =>
      (readLiteralLines (skipNewline rest)).map fun (value, after) =>
        (String.ofList value, after)
  | other => readLineText other

end Toml
end AssetExchange
