import AssetExchange.Proofs.Dictionary.Matching

/-!
# Restricting a bundle of traits

A bundle is restricted to a trait set by copying it trait by trait and property by property
into a new one (`TraitsData.copyTrait`).  What the loops have copied so far is said by
`property?_foldl_setProperty` for the properties of one trait and by
`property?_foldl_copyTrait` for the traits.

A bundle is determined by its traits and their properties (`TraitsData.ext_property?`), so
`RestrictionLaw` says all there is to say about a restriction: it has the traits that are in
both, with the properties that they had.
-/

namespace AssetExchange

namespace NameSet

def inter (names other : NameSet) : NameSet :=
  .ofList (names.toList.filter other.contains)

@[simp] theorem contains_inter (names other : NameSet) (name : String) :
    (names.inter other).contains name = (names.contains name && other.contains name) := by
  rw [inter, contains_ofList, Bool.eq_iff_iff, Bool.and_eq_true, List.contains_iff_mem,
    List.mem_filter, mem_toList_iff]

end NameSet

namespace TraitsData

variable {data other : TraitsData} {traits : TraitSet}

/-! ## What determines a bundle -/

theorem hasTrait_of_property? {trait key : String} {value : PropertyValue}
    (found : data.property? trait key = some value) : data.hasTrait trait = true := by
  rw [hasTrait, Dictionary.contains]
  rw [property?, properties] at found
  cases held : data.traits.get? trait with
  | none =>
      rw [held] at found
      cases found
  | some properties =>
      rfl

/-- Bundles with the same traits and the same properties are equal. -/
theorem ext_property? (sameTraits : ∀ trait, data.hasTrait trait = other.hasTrait trait)
    (sameProperties : ∀ trait key, data.property? trait key = other.property? trait key) :
    data = other := by
  obtain ⟨bundle⟩ := data
  obtain ⟨otherBundle⟩ := other
  congr 1
  apply Dictionary.ext_get?
  intro trait
  have present := sameTraits trait
  have properties := sameProperties trait
  simp only [hasTrait, Dictionary.contains] at present
  simp only [property?, TraitsData.properties] at properties
  cases held : bundle.get? trait with
  | none =>
      cases otherHeld : otherBundle.get? trait with
      | none =>
          rfl
      | some otherProperties =>
          rw [held, otherHeld] at present
          cases present
  | some ownProperties =>
      cases otherHeld : otherBundle.get? trait with
      | none =>
          rw [held, otherHeld] at present
          cases present
      | some otherProperties =>
          rw [held, otherHeld] at properties
          exact congrArg some (Dictionary.ext_get? properties)

/-! ## The loops -/

/-- Adds a trait of a bundle to another bundle, with all of its properties. -/
def copyTrait (data bundle : TraitsData) (trait : String) : TraitsData :=
  (data.properties trait).toList.foldl
    (fun held entry => held.setProperty trait entry.1 entry.2) (bundle.addTrait trait)

theorem hasTrait_foldl_setProperty (entries : List (String × PropertyValue))
    (bundle : TraitsData) (changed trait : String) (present : bundle.hasTrait changed = true) :
    (entries.foldl (fun held entry => held.setProperty changed entry.1 entry.2)
      bundle).hasTrait trait = bundle.hasTrait trait := by
  induction entries generalizing bundle with
  | nil =>
      rfl
  | cons entry rest inductionHypothesis =>
      rw [List.foldl_cons, inductionHypothesis, hasTrait_setProperty]
      · by_cases same : changed = trait
        · rw [← same, present, Bool.or_true]
        · rw [beq_false_of_ne same, Bool.false_or]
      · rw [hasTrait_setProperty, present, Bool.or_true]

/-- Properties that come from `data` are found as they are there; the others are those that
the bundle had before. -/
theorem property?_foldl_setProperty (entries : List (String × PropertyValue))
    (bundle : TraitsData) (changed : String)
    (fromData : ∀ entry ∈ entries, data.property? changed entry.1 = some entry.2)
    (trait key : String) :
    (entries.foldl (fun held entry => held.setProperty changed entry.1 entry.2)
      bundle).property? trait key =
        if changed = trait ∧ key ∈ entries.map Prod.fst then data.property? trait key
        else bundle.property? trait key := by
  induction entries generalizing bundle with
  | nil =>
      simp only [List.foldl_nil, List.map_nil, List.not_mem_nil, and_false, if_false]
  | cons entry rest inductionHypothesis =>
      obtain ⟨here, fromDataLater⟩ := List.forall_mem_cons.1 fromData
      rw [List.foldl_cons, inductionHypothesis _ fromDataLater, property?_setProperty]
      by_cases sameTrait : changed = trait
      · subst sameTrait
        by_cases sameKey : entry.1 = key
        · subst sameKey
          simp only [here, List.map_cons, List.mem_cons_self, true_and, if_true, ite_self]
        · simp only [List.map_cons, List.mem_cons, sameKey, Ne.symm sameKey, and_false,
            false_or, if_false]
      · simp only [sameTrait, false_and, if_false]

theorem hasTrait_copyTrait (data bundle : TraitsData) (copied trait : String) :
    (data.copyTrait bundle copied).hasTrait trait =
      (copied == trait || bundle.hasTrait trait) := by
  have added : (bundle.addTrait copied).hasTrait copied = true := by
    rw [hasTrait_addTrait, beq_self_eq_true, Bool.true_or]
  rw [copyTrait, hasTrait_foldl_setProperty _ _ _ _ added, hasTrait_addTrait]

theorem property?_copyTrait (data bundle : TraitsData) (copied trait key : String) :
    (data.copyTrait bundle copied).property? trait key =
      if copied = trait then (data.property? trait key).or (bundle.property? trait key)
      else bundle.property? trait key := by
  have fromData : ∀ entry ∈ (data.properties copied).toList,
      data.property? copied entry.1 = some entry.2 := by
    intro entry member
    exact (Dictionary.mem_toList_iff _ _ _).1 member
  have listed : key ∈ (data.properties copied).toList.map Prod.fst ↔
      (data.property? copied key).isSome = true :=
    (data.properties copied).mem_keys_iff key
  rw [copyTrait, property?_foldl_setProperty _ _ _ fromData, property?_addTrait]
  by_cases same : copied = trait
  · subst same
    simp only [listed, true_and, if_true]
    cases data.property? copied key <;> rfl
  · simp only [same, false_and, if_false]

/-- Where every step adds one trait, the traits of all steps are added. -/
theorem hasTrait_foldl_of_adds {step : TraitsData → String → TraitsData}
    (adds : ∀ bundle added trait,
      (step bundle added).hasTrait trait = (added == trait || bundle.hasTrait trait))
    (names : List String) (bundle : TraitsData) (trait : String) :
    (names.foldl step bundle).hasTrait trait =
      (names.contains trait || bundle.hasTrait trait) := by
  induction names generalizing bundle with
  | nil =>
      rfl
  | cons added rest inductionHypothesis =>
      rw [List.foldl_cons, inductionHypothesis, adds, List.contains_cons,
        BEq.comm (a := trait), Bool.or_left_comm, Bool.or_assoc]

/-- Traits that were copied have the properties that they have in `data`, besides those that
the bundle gave them before. -/
theorem property?_foldl_copyTrait (data bundle : TraitsData) (names : List String)
    (trait key : String) :
    (names.foldl data.copyTrait bundle).property? trait key =
      if trait ∈ names then (data.property? trait key).or (bundle.property? trait key)
      else bundle.property? trait key := by
  induction names generalizing bundle with
  | nil =>
      simp only [List.foldl_nil, List.not_mem_nil, if_false]
  | cons copied rest inductionHypothesis =>
      rw [List.foldl_cons, inductionHypothesis, property?_copyTrait]
      by_cases same : copied = trait
      · -- A trait that is copied twice has its properties from the first time on.
        subst same
        rw [if_pos rfl, if_pos List.mem_cons_self, ← Option.or_assoc, Option.or_self, ite_self]
      · simp only [if_neg same, List.mem_cons, Ne.symm same, false_or]

/-! ## Restrictions -/

theorem restrict_eq_foldl (data : TraitsData) (traits : TraitSet) :
    data.restrict traits = (traits.toList.filter data.hasTrait).foldl data.copyTrait empty :=
  rfl

@[simp] theorem hasTrait_restrict (data : TraitsData) (traits : TraitSet) (trait : String) :
    (data.restrict traits).hasTrait trait =
      (data.hasTrait trait && traits.contains trait) := by
  rw [restrict_eq_foldl, hasTrait_foldl_of_adds data.hasTrait_copyTrait, hasTrait_empty,
    Bool.or_false, Bool.eq_iff_iff, Bool.and_eq_true, List.contains_iff_mem,
    List.mem_filter, NameSet.mem_toList_iff, and_comm]

@[simp] theorem property?_restrict (data : TraitsData) (traits : TraitSet)
    (trait key : String) :
    (data.restrict traits).property? trait key =
      if traits.contains trait = true then data.property? trait key else none := by
  rw [restrict_eq_foldl, property?_foldl_copyTrait, property?_empty, Option.or_none]
  simp only [List.mem_filter, NameSet.mem_toList_iff]
  cases found : data.property? trait key with
  | none =>
      rw [ite_self, ite_self]
  | some value =>
      simp only [hasTrait_of_property? found, and_true]

theorem traitSet_restrict (data : TraitsData) (traits : TraitSet) :
    (data.restrict traits).traitSet = data.traitSet.inter traits := by
  apply NameSet.ext_contains
  intro trait
  rw [contains_traitSet, hasTrait_restrict, NameSet.contains_inter, contains_traitSet]

theorem restrict_restrict (data : TraitsData) (traits others : TraitSet) :
    (data.restrict traits).restrict others = data.restrict (traits.inter others) := by
  apply ext_property?
  · intro trait
    simp only [hasTrait_restrict, NameSet.contains_inter, Bool.and_assoc]
  · intro trait key
    simp only [property?_restrict, NameSet.contains_inter, Bool.and_eq_true, ite_and]
    by_cases chosen : traits.contains trait = true
    · rw [if_pos chosen, if_pos chosen]
    · rw [if_neg chosen, if_neg chosen, ite_self]

theorem restrict_of_isSubset (whole : data.traitSet.isSubset traits = true) :
    data.restrict traits = data := by
  rw [NameSet.isSubset_iff] at whole
  apply ext_property?
  · intro trait
    rw [hasTrait_restrict, Bool.and_eq_left_iff_imp, ← contains_traitSet]
    exact whole trait
  · intro trait key
    rw [property?_restrict]
    cases found : data.property? trait key with
    | none =>
        rw [ite_self]
    | some value =>
        have present := hasTrait_of_property? found
        rw [← contains_traitSet] at present
        rw [if_pos (whole trait present)]

/-- Only a restriction to all traits of a bundle leaves them all in place. -/
theorem isSubset_of_hasTrait_restrict
    (kept : ∀ trait, data.hasTrait trait = true → (data.restrict traits).hasTrait trait = true) :
    data.traitSet.isSubset traits = true := by
  rw [NameSet.isSubset_iff]
  intro trait member
  rw [contains_traitSet] at member
  have both := kept trait member
  rw [hasTrait_restrict, Bool.and_eq_true] at both
  exact both.2

theorem restrict_eq_self_iff :
    data.restrict traits = data ↔ data.traitSet.isSubset traits = true := by
  constructor
  · intro same
    apply isSubset_of_hasTrait_restrict
    intro trait present
    rwa [same]
  · exact restrict_of_isSubset

/-- A restriction is numerically equal to the bundle if it is the bundle and no value of it
differs from itself. -/
theorem equals_restrict_iff :
    (data.restrict traits).equals data = true ↔
      data.traitSet.isSubset traits = true ∧ data.equals data = true := by
  constructor
  · intro same
    have whole : data.traitSet.isSubset traits = true := by
      apply isSubset_of_hasTrait_restrict
      intro trait present
      rwa [hasTrait_of_equals same]
    rw [restrict_of_isSubset whole] at same
    exact ⟨whole, same⟩
  · rintro ⟨whole, same⟩
    rwa [restrict_of_isSubset whole]

/-- A restriction has the traits of the bundle that are in the set, a trait without
properties among them, and their properties.  Two restrictions are one to what is in both
sets, and a bundle is changed unless all of its traits are in the set. -/
structure RestrictionLaw (data : TraitsData) (traits : TraitSet) : Prop where
  traitSet : (data.restrict traits).traitSet = data.traitSet.inter traits
  property? : ∀ trait key, (data.restrict traits).property? trait key =
    if traits.contains trait = true then data.property? trait key else none
  restrict : ∀ others,
    (data.restrict traits).restrict others = data.restrict (traits.inter others)
  eq_iff : data.restrict traits = data ↔ data.traitSet.isSubset traits = true
  equals_iff : (data.restrict traits).equals data = true ↔
    data.traitSet.isSubset traits = true ∧ data.equals data = true

theorem restrictionLaw (data : TraitsData) (traits : TraitSet) :
    RestrictionLaw data traits where
  traitSet := traitSet_restrict data traits
  property? := property?_restrict data traits
  restrict := restrict_restrict data traits
  eq_iff := restrict_eq_self_iff
  equals_iff := equals_restrict_iff

end TraitsData
end AssetExchange
