import AssetExchange.Toml.DateTime
import AssetExchange.Toml.Lexeme
import AssetExchange.Toml.Number
import AssetExchange.Toml.Table

/-!
# Reading configuration files

`Toml.parse` reads the document that a configuration file describes, or nothing when
the file is not well formed or defines something twice. Lists and tables nest at most
seventy-nine deep, and a dotted key has at most as many parts.
-/

namespace AssetExchange
namespace Toml

/-! ## Keys -/

/-- How deep lists and tables nest, and how many parts a dotted key has, at most. -/
def nestingLimit : Nat := 79

def isKeyCharacter (character : Char) : Bool :=
  character.isAlphanum || character == '_' || character == '-'

def readSimpleKey (characters : List Char) : Option (String × List Char) :=
  match characters with
  | '"' :: _ | '\'' :: _ => readLineText characters
  | _ =>
      let key := characters.takeWhile isKeyCharacter
      if key.isEmpty then none
      else some (String.ofList key, characters.dropWhile isKeyCharacter)

/-- Reads a key of at most so many parts and the blanks around them. -/
def readKeyPath : Nat → List Char → Option (KeyPath × List Char)
  | 0, _ => none
  | limit + 1, characters => do
      let (key, rest) ← readSimpleKey (skipBlanks characters)
      match skipBlanks rest with
      | '.' :: more =>
          let (path, after) ← readKeyPath limit more
          return ({ path with parents := key :: path.parents }, after)
      | after => return (⟨[], key⟩, after)

def readKey (characters : List Char) : Option (KeyPath × List Char) :=
  readKeyPath nestingLimit characters

/-! ## Values -/

/-- The key under which a date or time stands in the table that represents it. -/
def dateKey : String := "$__toml_private_datetime"

/-- Reads a date, a time or a number. -/
def readNumber (characters : List Char) : Option (Document × List Char) :=
  match readDateTime characters with
  | some (date, rest) => some (.table [(dateKey, .text date)], rest)
  | none =>
      match readFloat characters with
      | some (value, rest) => some (.float value, rest)
      | none => (readInteger characters).map fun (value, rest) => (.signed value, rest)

mutual

/-- Reads a value; the arguments bound the work and the nesting that is left. -/
def readValue : Nat → Nat → List Char → Option (Document × List Char)
  | 0, _, _ => none
  | fuel + 1, depth, characters =>
      match characters with
      | '"' :: _ | '\'' :: _ =>
          (readText characters).map fun (value, rest) => (.text value, rest)
      | 't' :: 'r' :: 'u' :: 'e' :: rest => some (.bool true, rest)
      | 'f' :: 'a' :: 'l' :: 's' :: 'e' :: rest => some (.bool false, rest)
      | '[' :: rest =>
          if depth = 0 then none
          else
            (readItems fuel (depth - 1) (skipFiller false rest)).map
              fun (items, after) => (.list items, after)
      | '\x7b' :: rest => do
          guard (depth ≠ 0)
          let (entries, after) ←
            match skipBlanks rest with
            | '\x7d' :: after => some ([], after)
            | _ => readInlineEntries fuel (depth - 1) rest
          let table ← ofInline? entries
          return (table, after)
      | other => readNumber other

def readItems : Nat → Nat → List Char → Option (List Document × List Char)
  | 0, _, _ => none
  | _, _, ']' :: rest => some ([], rest)
  | fuel + 1, depth, characters => do
      let (item, rest) ← readValue fuel depth characters
      match skipFiller false rest with
      | ',' :: more =>
          let (items, after) ← readItems fuel depth (skipFiller false more)
          return (item :: items, after)
      | ']' :: after => return ([item], after)
      | _ => none

def readInlineEntries : Nat → Nat → List Char →
    Option (List (KeyPath × Document) × List Char)
  | 0, _, _ => none
  | fuel + 1, depth, characters => do
      let (key, afterKey) ← readKey characters
      let beforeValue ← after? '=' afterKey
      let (value, rest) ← readValue fuel depth (skipBlanks beforeValue)
      match skipBlanks rest with
      | ',' :: more =>
          let (entries, after) ← readInlineEntries fuel depth more
          return ((key, value) :: entries, after)
      | '\x7d' :: after => return ([(key, value)], after)
      | _ => none

end

/-! ## Lines -/

/-- What a line says. -/
inductive Statement
  | entry (path : KeyPath) (document : Document)
  | header (path : KeyPath) (inList : Bool)

/-- Reads a statement and the rest of its last line. -/
def readStatement (characters : List Char) : Option (Statement × List Char) :=
  match characters with
  | '[' :: '[' :: rest => do
      let (path, after) ← readKey rest
      let last ← (after? ']' after).bind (after? ']')
      return (.header path true, ← endLine? last)
  | '[' :: rest => do
      let (path, after) ← readKey rest
      let last ← after? ']' after
      return (.header path false, ← endLine? last)
  | _ => do
      let (path, afterKey) ← readKey characters
      let beforeValue ← after? '=' afterKey
      let (value, rest) ←
        readValue (characters.length + 1) nestingLimit (skipBlanks beforeValue)
      return (.entry path value, ← endLine? rest)

/-- Reads every statement of a file; the first argument bounds their number. -/
def readStatements : Nat → List Char → Option (List Statement)
  | 0, _ => none
  | fuel + 1, characters =>
      match skipBlanks characters with
      | [] => some []
      | '#' :: rest => (endLine? ('#' :: rest)).bind (readStatements fuel)
      | '\n' :: rest => readStatements fuel rest
      | '\r' :: '\n' :: rest => readStatements fuel rest
      | other => do
          let (statement, rest) ← readStatement other
          return statement :: (← readStatements fuel rest)

/-- Adds a statement in front of sections: an entry belongs to the section that begins
before the first header. -/
def Statement.addTo (statement : Statement) :
    List (KeyPath × Document) × List Section → List (KeyPath × Document) × List Section
  | (entries, sections) =>
      match statement with
      | .entry path document => ((path, document) :: entries, sections)
      | .header path inList => ([], ⟨some (path, inList), entries⟩ :: sections)

def sectionsOf (statements : List Statement) : List Section :=
  let (entries, sections) := statements.foldr Statement.addTo ([], [])
  ⟨none, entries⟩ :: sections

/-- Reads a configuration file. A byte order mark may stand at its beginning. -/
def parse (source : String) : Option Document :=
  let characters :=
    match source.toList with
    | '\uFEFF' :: rest => rest
    | other => other
  (readStatements (characters.length + 1) characters).bind fun statements =>
    ofSections? (sectionsOf statements)

end Toml
end AssetExchange
