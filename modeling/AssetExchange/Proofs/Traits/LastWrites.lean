import AssetExchange.Proofs.Traits.Restriction
import Mathlib.Data.List.Induction

/-!
# What changes make of a bundle

A bundle is changed by adding traits and by setting properties.  After any list of changes
its traits are those that it had and those that were named (`hasTrait_changeAll`), and a
property is what was written to it last, or else what it was (`property?_changeAll`).

A bundle is determined by its traits and their properties, so the order of changes matters
only as far as it decides which write of a property is the last one (`changeAll_congr`).
-/

namespace AssetExchange

/-- A change of a bundle. -/
inductive TraitsChange
  | addTrait (trait : String)
  | addTraits (traits : TraitSet)
  | setProperty (trait key : String) (value : PropertyValue)
deriving DecidableEq

namespace TraitsChange

def apply (data : TraitsData) : TraitsChange → TraitsData
  | addTrait trait => data.addTrait trait
  | addTraits traits => data.addTraits traits
  | setProperty trait key value => data.setProperty trait key value

/-- Whether a change adds a trait without saying anything about a property of it. -/
def adds : TraitsChange → String → Bool
  | addTrait added, trait => added == trait
  | addTraits traits, trait => traits.contains trait
  | setProperty _ _ _, _ => false

/-- What a change writes to a property. -/
def write? : TraitsChange → String → String → Option PropertyValue
  | setProperty changed changedKey value, trait, key =>
      if changed = trait ∧ changedKey = key then some value else none
  | _, _, _ => none

/-- Whether a change names a trait, as one to be added or as that of a property. -/
def names : TraitsChange → String → Bool
  | setProperty changed _ _, trait => changed == trait
  | change, trait => change.adds trait

theorem names_iff (change : TraitsChange) (trait : String) :
    change.names trait = true ↔
      change.adds trait = true ∨ ∃ key, (change.write? trait key).isSome = true := by
  cases change with
  | setProperty changed changedKey value =>
      by_cases same : changed = trait
      · simp [names, adds, write?, same]
      · simp [names, adds, write?, same]
  | _ =>
      simp [names, write?]

end TraitsChange

/-- The value that is written last to a property. -/
def lastWrite? (changes : List TraitsChange) (trait key : String) : Option PropertyValue :=
  changes.reverse.findSome? fun change => change.write? trait key

theorem lastWrite?_concat (changes : List TraitsChange) (change : TraitsChange)
    (trait key : String) :
    lastWrite? (changes ++ [change]) trait key =
      (change.write? trait key).or (lastWrite? changes trait key) := by
  rw [lastWrite?, List.reverse_append, List.reverse_singleton, List.singleton_append,
    List.findSome?_cons]
  cases change.write? trait key <;> rfl

/-- Traits are named by being added or by a write to one of their properties. -/
theorem exists_names_iff (changes : List TraitsChange) (trait : String) :
    (∃ change ∈ changes, change.names trait = true) ↔
      (∃ change ∈ changes, change.adds trait = true) ∨
        ∃ key, (lastWrite? changes trait key).isSome = true := by
  have written : ∀ key, (lastWrite? changes trait key).isSome = true ↔
      ∃ change ∈ changes, (change.write? trait key).isSome = true := by
    intro key
    simp [lastWrite?, List.findSome?_isSome_iff]
  simp only [written, TraitsChange.names_iff]
  constructor
  · rintro ⟨change, member, added | ⟨key, wrote⟩⟩
    · exact Or.inl ⟨change, member, added⟩
    · exact Or.inr ⟨key, change, member, wrote⟩
  · rintro (⟨change, member, added⟩ | ⟨key, change, member, wrote⟩)
    · exact ⟨change, member, Or.inl added⟩
    · exact ⟨change, member, Or.inr ⟨key, wrote⟩⟩

namespace TraitsData

variable {data : TraitsData} {first second : List TraitsChange}

/-! ## One change -/

theorem property?_foldl_addTrait (names : List String) (bundle : TraitsData)
    (trait key : String) :
    (names.foldl addTrait bundle).property? trait key = bundle.property? trait key := by
  induction names generalizing bundle with
  | nil =>
      rfl
  | cons added rest inductionHypothesis =>
      rw [List.foldl_cons, inductionHypothesis, property?_addTrait]

theorem hasTrait_addTraits (data : TraitsData) (traits : TraitSet) (trait : String) :
    (data.addTraits traits).hasTrait trait = (traits.contains trait || data.hasTrait trait) := by
  have listed : traits.toList.contains trait = traits.contains trait := by
    rw [Bool.eq_iff_iff, List.contains_iff_mem, NameSet.mem_toList_iff]
  rw [addTraits, hasTrait_foldl_of_adds hasTrait_addTrait, listed]

@[simp] theorem property?_addTraits (data : TraitsData) (traits : TraitSet)
    (trait key : String) :
    (data.addTraits traits).property? trait key = data.property? trait key :=
  property?_foldl_addTrait traits.toList data trait key

theorem hasTrait_apply (change : TraitsChange) (data : TraitsData) (trait : String) :
    (change.apply data).hasTrait trait = (change.names trait || data.hasTrait trait) := by
  cases change with
  | addTrait added =>
      exact hasTrait_addTrait data added trait
  | addTraits traits =>
      exact hasTrait_addTraits data traits trait
  | setProperty changed key value =>
      exact hasTrait_setProperty data changed key trait value

theorem property?_apply (change : TraitsChange) (data : TraitsData) (trait key : String) :
    (change.apply data).property? trait key =
      (change.write? trait key).or (data.property? trait key) := by
  cases change with
  | addTrait added =>
      exact property?_addTrait data added trait key
  | addTraits traits =>
      exact property?_addTraits data traits trait key
  | setProperty changed changedKey value =>
      rw [TraitsChange.apply, property?_setProperty, TraitsChange.write?]
      by_cases here : changed = trait ∧ changedKey = key
      · rw [if_pos here, if_pos here, Option.some_or]
      · rw [if_neg here, if_neg here, Option.none_or]

/-! ## Many changes -/

def changeAll (data : TraitsData) (changes : List TraitsChange) : TraitsData :=
  changes.foldl TraitsChange.apply data

theorem changeAll_concat (data : TraitsData) (changes : List TraitsChange)
    (change : TraitsChange) :
    data.changeAll (changes ++ [change]) = change.apply (data.changeAll changes) := by
  rw [changeAll, List.foldl_append]
  rfl

theorem hasTrait_changeAll (data : TraitsData) (changes : List TraitsChange)
    (trait : String) :
    (data.changeAll changes).hasTrait trait = true ↔
      data.hasTrait trait = true ∨ ∃ change ∈ changes, change.names trait = true := by
  induction changes using List.reverseRecOn with
  | nil =>
      simp [changeAll]
  | append_singleton changes change inductionHypothesis =>
      rw [changeAll_concat, hasTrait_apply, Bool.or_eq_true, inductionHypothesis]
      simp only [List.mem_append, List.mem_singleton, or_and_right, exists_or,
        exists_eq_left]
      exact or_left_comm.trans (or_congr_right or_comm)

theorem property?_changeAll (data : TraitsData) (changes : List TraitsChange)
    (trait key : String) :
    (data.changeAll changes).property? trait key =
      (lastWrite? changes trait key).or (data.property? trait key) := by
  induction changes using List.reverseRecOn with
  | nil =>
      rfl
  | append_singleton changes change inductionHypothesis =>
      rw [changeAll_concat, property?_apply, inductionHypothesis, lastWrite?_concat,
        Option.or_assoc]

/-- Only the traits that are named and the last write of each property matter. -/
theorem changeAll_congr
    (sameNamed : ∀ trait, (∃ change ∈ first, change.names trait = true) ↔
      ∃ change ∈ second, change.names trait = true)
    (sameWrites : ∀ trait key, lastWrite? first trait key = lastWrite? second trait key) :
    data.changeAll first = data.changeAll second := by
  apply ext_property?
  · intro trait
    rw [Bool.eq_iff_iff, hasTrait_changeAll, hasTrait_changeAll, sameNamed]
  · intro trait key
    rw [property?_changeAll, property?_changeAll, sameWrites]

/-! ## Bundles without properties -/

theorem hasTrait_ofTraitSet (traits : TraitSet) (trait : String) :
    (ofTraitSet traits).hasTrait trait = traits.contains trait := by
  rw [ofTraitSet, hasTrait_addTraits, hasTrait_empty, Bool.or_false]

@[simp] theorem property?_ofTraitSet (traits : TraitSet) (trait key : String) :
    (ofTraitSet traits).property? trait key = none := by
  rw [ofTraitSet, property?_addTraits, property?_empty]

theorem ofTraitSet_traitSet_eq_iff (data : TraitsData) :
    ofTraitSet data.traitSet = data ↔ ∀ trait key, data.property? trait key = none := by
  constructor
  · intro same trait key
    rw [← same, property?_ofTraitSet]
  · intro bare
    apply ext_property?
    · intro trait
      rw [hasTrait_ofTraitSet, contains_traitSet]
    · intro trait key
      rw [property?_ofTraitSet, bare]

/-- Numerical comparison makes no difference here, as nothing is compared. -/
theorem equals_ofTraitSet_traitSet_iff (data : TraitsData) :
    (ofTraitSet data.traitSet).equals data = true ↔
      ∀ trait key, data.property? trait key = none := by
  constructor
  · intro same trait key
    have found := isSome_property?_of_equals same trait key
    rw [property?_ofTraitSet] at found
    exact Option.not_isSome_iff_eq_none.1 (Bool.eq_false_iff.1 found.symm)
  · intro bare
    rw [(ofTraitSet_traitSet_eq_iff data).2 bare, equals_self_iff]
    intro trait key value found
    rw [bare] at found
    cases found

/-! ## The law -/

theorem isEmpty_iff (data : TraitsData) : data.isEmpty = true ↔ data.traitSet = .empty := by
  obtain ⟨entries, ascending⟩ := data
  cases entries with
  | nil =>
      exact ⟨fun _ => rfl, fun _ => rfl⟩
  | cons entry rest =>
      constructor
      · intro impossible
        cases impossible
      · intro impossible
        cases impossible

/-- What a bundle is after changes of another one. -/
structure LastWriteLaw (data : TraitsData) (changes : List TraitsChange)
    (result : TraitsData) : Prop where
  /-- The traits are those that were there and those that a change names. -/
  traitSet : ∀ trait, result.traitSet.contains trait = true ↔
    data.traitSet.contains trait = true ∨ ∃ change ∈ changes, change.names trait = true
  /-- A property is what was written to it last, or else what it was. -/
  property? : ∀ trait key, result.property? trait key =
    (lastWrite? changes trait key).or (data.property? trait key)
  mem_propertyKeys_iff : ∀ trait key, key ∈ result.propertyKeys trait ↔
    (result.property? trait key).isSome = true
  propertyKeys_ascending : ∀ trait, (result.propertyKeys trait).Pairwise (· < ·)
  hasTrait : ∀ trait, result.hasTrait trait = result.traitSet.contains trait
  isEmpty_iff : result.isEmpty = true ↔ result.traitSet = .empty
  /-- Adding traits changes no property. -/
  adding : ∀ trait key,
    (∀ added, (result.addTrait added).property? trait key = result.property? trait key) ∧
      ∀ traits, (result.addTraits traits).property? trait key = result.property? trait key
  /-- Changes that name the same traits, or only add the same ones, and that write the same
  values last make the same bundle, in whatever order they come.  Compared numerically the two
  are equal unless one of the values stands for no number. -/
  determined : ∀ others : List TraitsChange,
    ((∀ trait, (∃ change ∈ others, change.names trait = true) ↔
        ∃ change ∈ changes, change.names trait = true) ∨
      ∀ trait, (∃ change ∈ others, change.adds trait = true) ↔
        ∃ change ∈ changes, change.adds trait = true) →
    (∀ trait key, lastWrite? others trait key = lastWrite? changes trait key) →
      data.changeAll others = result ∧
        ((data.changeAll others).equals result = true ↔
          ∀ trait key value, result.property? trait key = some value → value.isNaN = false)
  /-- The traits alone are the whole bundle exactly if it has no properties. -/
  ofTraitSet_iff : (ofTraitSet result.traitSet = result ↔
      ∀ trait key, result.property? trait key = none) ∧
    ((ofTraitSet result.traitSet).equals result = true ↔
      ∀ trait key, result.property? trait key = none)

/-- Changes of a bundle come down to the traits that they name and the last write of each
property. -/
theorem changes_denote_last_writes (data : TraitsData) (changes : List TraitsChange) :
    LastWriteLaw data changes (data.changeAll changes) := by
  constructor
  case traitSet =>
    intro trait
    rw [contains_traitSet, contains_traitSet]
    exact hasTrait_changeAll data changes trait
  case property? =>
    exact property?_changeAll data changes
  case mem_propertyKeys_iff =>
    intro trait key
    exact Dictionary.mem_keys_iff _ key
  case propertyKeys_ascending =>
    intro trait
    exact Dictionary.keys_ascending _
  case hasTrait =>
    intro trait
    exact (contains_traitSet _ trait).symm
  case isEmpty_iff =>
    exact isEmpty_iff _
  case adding =>
    intro trait key
    exact ⟨fun added => property?_addTrait _ added trait key,
      fun traits => property?_addTraits _ traits trait key⟩
  case determined =>
    intro others sameTraits sameWrites
    have same : data.changeAll others = data.changeAll changes := by
      rcases sameTraits with sameNamed | sameAdded
      · exact changeAll_congr sameNamed sameWrites
      · refine changeAll_congr ?_ sameWrites
        intro trait
        rw [exists_names_iff, exists_names_iff, sameAdded]
        simp only [sameWrites]
    rw [same]
    exact ⟨rfl, equals_self_iff⟩
  case ofTraitSet_iff =>
    exact ⟨ofTraitSet_traitSet_eq_iff _, equals_ofTraitSet_traitSet_iff _⟩

/-- A property is written twice, and a trait is added in between. -/
def writtenTwice : List TraitsChange :=
  [.setProperty "a" "k" (.int 1), .addTrait "b", .setProperty "a" "k" (.int 2)]

/-- The trait is added first, and then only the second value is written. -/
def writtenOnce : List TraitsChange :=
  [.addTraits (.ofList ["b"]), .setProperty "a" "k" (.int 2)]

/-- Both make the same bundle of a bundle without traits. -/
theorem changes_denote_last_writes_reordered :
    (∀ trait, (∃ change ∈ writtenOnce, change.adds trait = true) ↔
      ∃ change ∈ writtenTwice, change.adds trait = true) ∧
    (∀ trait key, lastWrite? writtenOnce trait key = lastWrite? writtenTwice trait key) ∧
    empty.changeAll writtenOnce = empty.changeAll writtenTwice := by
  have sameAdded : ∀ trait, (∃ change ∈ writtenOnce, change.adds trait = true) ↔
      ∃ change ∈ writtenTwice, change.adds trait = true := by
    intro trait
    simp only [writtenOnce, writtenTwice, List.mem_cons, List.not_mem_nil, or_false,
      exists_eq_or_imp, exists_eq_left, TraitsChange.adds, NameSet.contains_ofList,
      List.contains_iff_mem, beq_iff_eq, Bool.false_eq_true, false_or]
    exact eq_comm
  have sameWrites : ∀ trait key,
      lastWrite? writtenOnce trait key = lastWrite? writtenTwice trait key := by
    intro trait key
    by_cases here : "a" = trait ∧ "k" = key
    · simp [lastWrite?, writtenOnce, writtenTwice, TraitsChange.write?, here]
    · simp [lastWrite?, writtenOnce, writtenTwice, TraitsChange.write?, here]
  have law := changes_denote_last_writes empty writtenTwice
  exact ⟨sameAdded, sameWrites, (law.determined writtenOnce (.inr sameAdded) sameWrites).1⟩

end TraitsData
end AssetExchange
