import AssetExchange.Binary64.Basic
import AssetExchange.Dictionary

/-!
# Configuration trees

What configuration files and environment variables say, before it is read as a
configuration: simple values, lists and tables. The fields of a table are listed in
ascending order of their keys.

Layers of configuration are laid over one another by `merge`: where both have a table
the tables are merged field by field, and anything else is replaced.
-/

namespace AssetExchange

/-- A value of a configuration layer. -/
inductive Document
  | bool (value : Bool)
  /-- An integer of a source that has signed integers. -/
  | signed (value : Int)
  /-- An integer of a source that tells unsigned integers apart. -/
  | unsigned (value : Nat)
  | float (value : Binary64)
  | text (value : String)
  | character (value : Char)
  | list (items : List Document)
  /-- A table, its fields in ascending order of their keys. -/
  | table (fields : List (String × Document))

namespace Document

instance : Inhabited Document := ⟨.table []⟩

def empty : Document := .table []

/-- A table with the given fields, in the order of their keys. -/
def ofFields (fields : List (String × Document)) : Document :=
  .table (Entries.ofList fields)

def fields : Document → List (String × Document)
  | table fields => fields
  | _ => []

def field? (key : String) (document : Document) : Option Document :=
  Entries.get? key document.fields

def atPath (value : Document) : List String → Document
  | [] => value
  | key :: path => .table [(key, atPath value path)]

mutual

/-- Lays the second document over the first. -/
def merge : Document → Document → Document
  | table lower, table upper => .table (mergeFields lower upper)
  | _, upper => upper

/-- Lays fields over those of a table, one after the other. -/
def mergeFields : List (String × Document) → List (String × Document) →
    List (String × Document)
  | lower, [] => lower
  | lower, (key, value) :: rest =>
      mergeFields
        (Entries.insert key
          (match Entries.get? key lower with
            | some held => merge held value
            | none => value)
          lower)
        rest

end

/-- Lays every layer of a list over the ones before it. -/
def ofLayers (layers : List Document) : Document :=
  layers.foldl merge empty

@[simp] theorem mergeFields_nil (lower : List (String × Document)) :
    mergeFields lower [] = lower := by
  rw [mergeFields]

end Document
end AssetExchange
