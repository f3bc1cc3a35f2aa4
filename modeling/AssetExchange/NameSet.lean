import AssetExchange.Dictionary

/-!
# Sets of names

A set of names is listed in ascending order without repetition, whatever order
and repetitions it was built from. Trait sets are such sets.
-/

namespace AssetExchange

/-- A finite set of strings. -/
structure NameSet where
  members : Dictionary Unit
deriving DecidableEq

/-- The identifiers of a group of traits. -/
abbrev TraitSet := NameSet

namespace NameSet

def empty : NameSet := ⟨.empty⟩

instance : Inhabited NameSet := ⟨empty⟩

def insert (names : NameSet) (name : String) : NameSet :=
  ⟨names.members.insert name ()⟩

def ofList (names : List String) : NameSet :=
  names.foldl insert empty

def ofKeys {alpha : Type} (dictionary : Dictionary alpha) : NameSet :=
  ⟨dictionary.map fun _ => ()⟩

def toList (names : NameSet) : List String :=
  names.members.keys

def contains (names : NameSet) (name : String) : Bool :=
  names.members.contains name

def isSubset (names other : NameSet) : Bool :=
  names.toList.all other.contains

theorem mem_toList_iff (names : NameSet) (name : String) :
    name ∈ names.toList ↔ names.contains name = true :=
  names.members.mem_keys_iff name

@[simp] theorem contains_empty (name : String) : empty.contains name = false := rfl

theorem contains_insert (names : NameSet) (added name : String) :
    (names.insert added).contains name = (added == name || names.contains name) := by
  by_cases same : added = name <;>
    simp [contains, insert, Dictionary.contains, Dictionary.get?_insert, same]

theorem contains_ofList (names : List String) (name : String) :
    (ofList names).contains name = names.contains name := by
  have step : ∀ (rest : List String) (start : NameSet),
      (rest.foldl insert start).contains name =
        (start.contains name || rest.contains name) := by
    intro rest
    induction rest with
    | nil => simp
    | cons head tail inductionHypothesis =>
        intro start
        rw [List.foldl_cons, inductionHypothesis, contains_insert, List.contains_cons,
          Bool.or_comm (head == name), Bool.or_assoc, BEq.comm]
  simp [ofList, step]

@[simp] theorem contains_ofKeys {alpha : Type} (dictionary : Dictionary alpha)
    (name : String) : (ofKeys dictionary).contains name = dictionary.contains name := by
  simp [contains, ofKeys, Dictionary.contains]

theorem isSubset_iff (names other : NameSet) :
    names.isSubset other = true ↔
      ∀ name, names.contains name = true → other.contains name = true := by
  simp [isSubset, List.all_eq_true, mem_toList_iff]

/-- Sets with the same members are equal. -/
theorem ext_contains {first second : NameSet}
    (same : ∀ name, first.contains name = second.contains name) :
    first = second := by
  obtain ⟨firstMembers⟩ := first
  obtain ⟨secondMembers⟩ := second
  congr 1
  refine Dictionary.ext_get? fun key => ?_
  have agree := same key
  simp only [contains, Dictionary.contains] at agree
  cases firstFound : firstMembers.get? key <;>
    cases secondFound : secondMembers.get? key <;> simp_all

end NameSet

end AssetExchange
