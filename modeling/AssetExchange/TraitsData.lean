import AssetExchange.NameSet
import AssetExchange.PropertyValue

/-!
# Traits data

A bundle of traits, each with properties of its own. Bundles are plain values:
changing a copy never changes the bundle it was taken from. The main statements
say what each change does to the trait set and to a property.
-/

namespace AssetExchange

/-- Traits by identifier, each with its properties by key. -/
structure TraitsData where
  traits : Dictionary (Dictionary PropertyValue)
deriving DecidableEq

namespace TraitsData

def empty : TraitsData := ⟨.empty⟩

instance : Inhabited TraitsData := ⟨empty⟩

def traitSet (data : TraitsData) : TraitSet :=
  .ofKeys data.traits

def hasTrait (data : TraitsData) (trait : String) : Bool :=
  data.traits.contains trait

def isEmpty (data : TraitsData) : Bool :=
  data.traits.isEmpty

/-- The properties of a trait; none when the trait is absent. -/
def properties (data : TraitsData) (trait : String) : Dictionary PropertyValue :=
  (data.traits.get? trait).getD .empty

/-- Adds a trait without properties, unless it is there already. -/
def addTrait (data : TraitsData) (trait : String) : TraitsData :=
  ⟨data.traits.alter trait .empty id⟩

def addTraits (data : TraitsData) (traits : TraitSet) : TraitsData :=
  traits.toList.foldl addTrait data

def ofTraitSet (traits : TraitSet) : TraitsData :=
  empty.addTraits traits

/-- Sets a property, adding its trait if necessary. -/
def setProperty (data : TraitsData) (trait key : String)
    (value : PropertyValue) : TraitsData :=
  ⟨data.traits.alter trait .empty fun properties => properties.insert key value⟩

def property? (data : TraitsData) (trait key : String) : Option PropertyValue :=
  (data.properties trait).get? key

def propertyKeys (data : TraitsData) (trait : String) : List String :=
  (data.properties trait).keys

def equals (first second : TraitsData) : Bool :=
  first.traits.allMatch InfoDictionary.equals second.traits

/-- The part of the bundle that belongs to the traits of a set. -/
def restrict (data : TraitsData) (traits : TraitSet) : TraitsData :=
  (traits.toList.filter data.hasTrait).foldl
    (fun restricted trait =>
      (data.properties trait).toList.foldl
        (fun bundle entry => bundle.setProperty trait entry.1 entry.2)
        (restricted.addTrait trait))
    empty

@[simp] theorem hasTrait_empty (trait : String) : empty.hasTrait trait = false := rfl

@[simp] theorem property?_empty (trait key : String) :
    empty.property? trait key = none := rfl

@[simp] theorem contains_traitSet (data : TraitsData) (trait : String) :
    data.traitSet.contains trait = data.hasTrait trait := by
  simp [traitSet, hasTrait]

theorem hasTrait_addTrait (data : TraitsData) (added trait : String) :
    (data.addTrait added).hasTrait trait = (added == trait || data.hasTrait trait) := by
  by_cases same : added = trait <;>
    simp [hasTrait, addTrait, Dictionary.alter, Dictionary.contains,
      Dictionary.get?_insert, same]

theorem hasTrait_setProperty (data : TraitsData) (changed key trait : String)
    (value : PropertyValue) :
    (data.setProperty changed key value).hasTrait trait =
      (changed == trait || data.hasTrait trait) := by
  by_cases same : changed = trait <;>
    simp [hasTrait, setProperty, Dictionary.alter, Dictionary.contains,
      Dictionary.get?_insert, same]

theorem properties_addTrait (data : TraitsData) (added trait : String) :
    (data.addTrait added).properties trait = data.properties trait := by
  by_cases same : added = trait
  · subst same
    simp [properties, addTrait, Dictionary.alter]
  · simp [properties, addTrait, Dictionary.alter, Dictionary.get?_insert, same]

theorem properties_setProperty (data : TraitsData) (changed key trait : String)
    (value : PropertyValue) :
    (data.setProperty changed key value).properties trait =
      if changed = trait then (data.properties trait).insert key value
      else data.properties trait := by
  by_cases same : changed = trait
  · subst same
    simp [properties, setProperty, Dictionary.alter]
  · simp [properties, setProperty, Dictionary.alter, Dictionary.get?_insert, same]

@[simp] theorem property?_addTrait (data : TraitsData) (added trait key : String) :
    (data.addTrait added).property? trait key = data.property? trait key := by
  simp [property?, properties_addTrait]

theorem property?_setProperty (data : TraitsData)
    (changed changedKey trait key : String) (value : PropertyValue) :
    (data.setProperty changed changedKey value).property? trait key =
      if changed = trait ∧ changedKey = key then some value
      else data.property? trait key := by
  by_cases same : changed = trait
  · subst same
    simp [property?, properties_setProperty, Dictionary.get?_insert]
  · simp [property?, properties_setProperty, same]

end TraitsData
end AssetExchange
