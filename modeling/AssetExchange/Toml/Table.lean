import AssetExchange.Config.Document

/-!
# Configuration files: defining tables

A configuration file defines values and tables one after the other, and defines nothing
twice. While it is read a table is therefore kept with the way in which it came about:
by a header of its own, because a header below it was given, or because a dotted key
passed through it. A header may still be given to a table of the second kind, and dotted
keys may pass only through tables that have no header of their own.
-/

namespace AssetExchange
namespace Toml

/-- How a table came about. -/
inductive TableOrigin
  /-- A header names it, or it is the whole file. -/
  | header
  /-- A header below it was given. -/
  | implied
  /-- A dotted key passed through it. -/
  | dotted
deriving DecidableEq

/-- What a key is bound to while a file is read. -/
inductive Node
  | value (document : Document)
  | table (origin : TableOrigin) (fields : List (String × Node))
  /-- A list of tables, each with a header of its own. -/
  | tables (items : List Node)

/-- A path of keys: the tables on the way and the last key. -/
structure KeyPath where
  parents : List String
  last : String
deriving DecidableEq

/-- What is written under one header, or before the first one. -/
structure Section where
  /-- The header, and whether it starts a new table of a list; none for what stands
  before the first header. -/
  header : Option (KeyPath × Bool)
  entries : List (KeyPath × Document)

mutual

def Node.toDocument : Node → Document
  | .value document => document
  | .table _ fields => .table (fieldDocuments fields)
  | .tables items => .list (itemDocuments items)

def fieldDocuments : List (String × Node) → List (String × Document)
  | [] => []
  | (key, node) :: rest => (key, node.toDocument) :: fieldDocuments rest

def itemDocuments : List Node → List Document
  | [] => []
  | node :: rest => node.toDocument :: itemDocuments rest

end

/-- A change to the fields of a table, given how the table came about. Some changes are
refused. -/
abbrev Change := TableOrigin → List (String × Node) → Option (List (String × Node))

/-- Makes a change at the end of a path of tables. Tables that are missing on the way
come about by `passing`; in a list of tables the way leads through the last one. -/
def changeAt (passing : TableOrigin) (change : Change) : List String → Change
  | [], origin, fields => change origin fields
  | key :: path, _, fields =>
      match Entries.get? key fields with
      | none =>
          (changeAt passing change path passing []).map fun inner =>
            Entries.insert key (.table passing inner) fields
      | some (.value _) => none
      | some (.table origin inner) =>
          if passing = .dotted ∧ origin = .header then none
          else
            (changeAt passing change path origin inner).map fun changed =>
              Entries.insert key (.table origin changed) fields
      | some (.tables items) =>
          match items.getLast? with
          | some (.table origin inner) =>
              (changeAt passing change path origin inner).map fun changed =>
                Entries.insert key (.tables (items.dropLast ++ [.table origin changed]))
                  fields
          | _ => none

/-- Binds a key that is not bound yet. A key on its own belongs to a table that is not
dotted, and a dotted key ends in one that is. -/
def bind (path : KeyPath) (document : Document) : Change := fun origin fields =>
  if (origin == .dotted) == path.parents.isEmpty then none
  else if (Entries.get? path.last fields).isSome then none
  else some (Entries.insert path.last (.value document) fields)

def define (path : KeyPath) (document : Document) : Change :=
  changeAt .dotted (bind path document) path.parents

/-- Defines values one after the other in a table with a header. -/
def defineAll (entries : List (KeyPath × Document)) (fields : List (String × Node)) :
    Option (List (String × Node)) :=
  entries.foldlM (fun held entry => define entry.1 entry.2 .header held) fields

def fillTable (key : String) (entries : List (KeyPath × Document)) : Change :=
  fun _ fields =>
    let filled (held : List (String × Node)) : Option (List (String × Node)) :=
      (defineAll entries held).map fun inner =>
        Entries.insert key (.table .header inner) fields
    match Entries.get? key fields with
    | none => filled []
    | some (.table .implied held) => filled held
    | some _ => none

def appendTable (key : String) (entries : List (KeyPath × Document)) : Change :=
  fun _ fields =>
    let appended (held : List Node) : Option (List (String × Node)) :=
      (defineAll entries []).map fun inner =>
        Entries.insert key (.tables (held ++ [.table .header inner])) fields
    match Entries.get? key fields with
    | none => appended []
    | some (.tables held) => appended held
    | some _ => none

def addSection (fields : List (String × Node)) (part : Section) :
    Option (List (String × Node)) :=
  match part.header with
  | none => defineAll part.entries fields
  | some (path, inList) =>
      let change :=
        if inList then appendTable path.last part.entries
        else fillTable path.last part.entries
      changeAt .implied change path.parents .header fields

def ofSections? (sections : List Section) : Option Document :=
  (sections.foldlM addSection []).map fun fields => .table (fieldDocuments fields)

/-- The document of a table that is written on one line. -/
def ofInline? (entries : List (KeyPath × Document)) : Option Document :=
  (defineAll entries []).map fun fields => .table (fieldDocuments fields)

end Toml
end AssetExchange
