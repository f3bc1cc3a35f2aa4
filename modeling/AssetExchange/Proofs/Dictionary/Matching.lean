import AssetExchange.TraitsData
import Mathlib.Data.List.Zip
import Mathlib.Data.Option.Basic

/-!
# Dictionaries that match

Dictionaries match if they have the same keys, with values that are related under each of
them.  Numerical comparison is such a relation, and it is not equality: a value that stands
for no number differs from itself, and so does everything that has such a value in it
(`TraitsData.equals_self_iff`).
-/

namespace AssetExchange

/-! ## Matching -/

section Matching

variable {alpha beta : Type} {related : alpha → beta → Bool}

/-- Lists of entries that are related pair by pair have related values under every key. -/
theorem Entries.rel_get?_of_zip {first : List (String × alpha)}
    {second : List (String × beta)} (sameLength : first.length = second.length)
    (pairs : ∀ pair ∈ first.zip second,
      (pair.1.1 == pair.2.1 && related pair.1.2 pair.2.2) = true) (key : String) :
    Option.Rel (fun left right => related left right = true) (get? key first)
      (get? key second) := by
  induction first generalizing second with
  | nil =>
      cases second with
      | nil =>
          exact .none
      | cons entry others =>
          cases sameLength
  | cons entry rest inductionHypothesis =>
      cases second with
      | nil =>
          cases sameLength
      | cons other others =>
          obtain ⟨name, value⟩ := entry
          obtain ⟨otherName, otherValue⟩ := other
          obtain ⟨here, later⟩ := List.forall_mem_cons.1 pairs
          rw [Bool.and_eq_true] at here
          have sameName : name = otherName := eq_of_beq here.1
          by_cases found : name = key
          · rw [get?, get?, if_pos found, if_pos (sameName ▸ found)]
            exact .some here.2
          · rw [get?, get?, if_neg found, if_neg (sameName ▸ found)]
            exact inductionHypothesis (Nat.succ.inj sameLength) later

namespace Dictionary

variable {dictionary : Dictionary alpha} {other : Dictionary beta}

theorem allMatch_self_iff {related : alpha → alpha → Bool} :
    dictionary.allMatch related dictionary = true ↔
      ∀ entry ∈ dictionary.toList, related entry.2 entry.2 = true := by
  have paired : dictionary.entries.zip dictionary.entries =
      dictionary.entries.map fun entry => (entry, entry) := by
    simpa only [List.map_id, id_eq] using
      List.zip_map' (f := id) (g := id) (l := dictionary.entries)
  rw [allMatch, paired, List.all_map, Bool.and_eq_true, List.all_eq_true]
  simp only [Function.comp_apply, beq_self_eq_true, Bool.true_and, true_and]
  rfl

theorem rel_get?_of_allMatch (matching : dictionary.allMatch related other = true)
    (key : String) :
    Option.Rel (fun left right => related left right = true) (dictionary.get? key)
      (other.get? key) := by
  rw [allMatch, Bool.and_eq_true, List.all_eq_true] at matching
  exact Entries.rel_get?_of_zip (eq_of_beq matching.1) matching.2 key

/-- Dictionaries that match have the same keys. -/
theorem contains_of_allMatch (matching : dictionary.allMatch related other = true)
    (key : String) : dictionary.contains key = other.contains key := by
  have found := rel_get?_of_allMatch matching key
  rw [contains, contains]
  generalize dictionary.get? key = held at found ⊢
  generalize other.get? key = otherHeld at found ⊢
  cases found with
  | none =>
      rfl
  | some _ =>
      rfl

end Dictionary
end Matching

/-! ## Numerical comparison -/

theorem PropertyValue.equals_self_iff (value : PropertyValue) :
    value.equals value = true ↔ value.isNaN = false := by
  cases value with
  | float number =>
      exact number.equals_self_iff
  | _ =>
      simp only [equals, isNaN, beq_self_eq_true]

namespace TraitsData

variable {data other : TraitsData}

/-- A bundle is equal to itself by comparison if all that should be numbers are. -/
theorem equals_self_iff :
    data.equals data = true ↔
      ∀ trait key value, data.property? trait key = some value → value.isNaN = false := by
  rw [equals, Dictionary.allMatch_self_iff]
  constructor
  · intro each trait key value found
    rw [property?, properties] at found
    cases held : data.traits.get? trait with
    | none =>
        rw [held] at found
        cases found
    | some bundle =>
        rw [held] at found
        have same := each _ ((data.traits.mem_toList_iff trait bundle).2 held)
        have inner := Dictionary.allMatch_self_iff.1 same
        exact (value.equals_self_iff).1 (inner _ ((bundle.mem_toList_iff key value).2 found))
  · rintro numbers ⟨trait, bundle⟩ member
    apply Dictionary.allMatch_self_iff.2
    rintro ⟨key, value⟩ inner
    have held := (data.traits.mem_toList_iff trait bundle).1 member
    have found : data.property? trait key = some value := by
      rw [property?, properties, held]
      exact (bundle.mem_toList_iff key value).1 inner
    exact (value.equals_self_iff).2 (numbers trait key value found)

/-- Bundles that are equal by comparison have the same traits. -/
theorem hasTrait_of_equals (same : data.equals other = true) (trait : String) :
    data.hasTrait trait = other.hasTrait trait :=
  Dictionary.contains_of_allMatch same trait

/-- Bundles that are equal by comparison have properties under the same keys. -/
theorem isSome_property?_of_equals (same : data.equals other = true) (trait key : String) :
    (data.property? trait key).isSome = (other.property? trait key).isSome := by
  have found := Dictionary.rel_get?_of_allMatch same trait
  rw [property?, property?, properties, properties]
  generalize data.traits.get? trait = held at found ⊢
  generalize other.traits.get? trait = otherHeld at found ⊢
  cases found with
  | none =>
      rfl
  | some inner =>
      exact Dictionary.contains_of_allMatch inner key

end TraitsData
end AssetExchange
