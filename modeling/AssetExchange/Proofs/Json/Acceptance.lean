import AssetExchange.Proofs.Json.Faithful
import Mathlib.Data.List.Forall2

/-!
# What can be read from a document value

A property value is read from a truth value, a number or a string, and from nothing else
(`Json.isLeaf`); `Json.Leaf` says which value it is.  A dictionary is read from an object if
all of its fields can be read (`dictionaryLaw`): one field that cannot be read is enough for
the whole to be refused, however deep it lies.  What is read has the keys of the object, and
under each key what stands under it there (`decoding_exact`).

Reading tries the kinds of property values one after the other, and the first that fits
counts (`PropertyValue.decode_eq_firstOf`).  Only the order of the two kinds of numbers
matters.
-/

namespace AssetExchange

/-! ## Leaves -/

namespace Json

def isLeaf : Json → Bool
  | bool _ => true
  | int _ => true
  | float _ => true
  | text _ => true
  | null => false
  | list _ => false
  | object _ => false

/-- The property value that a document value stands for.  An integer of a signed word stays
one, and every other number becomes the double-precision number next to it. -/
inductive Leaf : Json → PropertyValue → Prop
  | bool (value : Bool) : Leaf (.bool value) (.bool value)
  | int (value : Int64) : Leaf (.int value.toInt) (.int value)
  | largeInt {value : Int} (large : ¬ IsSignedWord value) :
      Leaf (.int value) (.float (.ofInt value))
  | float (value : Binary64) : Leaf (.float value) (.float value)
  | text (value : String) : Leaf (.text value) (.text value)

/-- The value that an object holds under a key: of several fields with the key that of the
last one. -/
def held? (key : String) : Json → Option Json
  | object fields => Entries.get? key fields.reverse
  | _ => none

end Json

open Json

namespace Decoder

variable {alpha : Type}

/-- Reads a number; an integer is rounded to the double-precision number next to it. -/
def number : Decoder Binary64
  | .int value => .ok (.ofInt value)
  | .float value => .ok value
  | _ => .error .invalidType

/-- Reads a value in the first of several ways that succeeds. -/
def firstOf (ways : List (Decoder alpha)) (reason : DecodeError) : Decoder alpha :=
  fun json =>
    match ways.findSome? fun decode => (decode json).toOption with
    | some value => .ok value
    | none => .error reason

end Decoder

namespace PropertyValue

/-- The kinds of property values in the order in which they are tried. -/
def kinds : List (Decoder PropertyValue) :=
  [fun json => (Decoder.bool json).map bool,
    fun json => (Decoder.intBetween (-signPlace) signPlace json).map fun value =>
      int (Int64.ofInt value),
    fun json => (Decoder.number json).map float,
    fun json => (Decoder.text json).map text]

theorem decode_eq_firstOf (json : Json) :
    decode json = Decoder.firstOf kinds .noPropertyValue json := by
  cases json with
  | int value =>
      by_cases fits : IsSignedWord value
      · have read : Decoder.intBetween (-signPlace) signPlace (.int value) = .ok value :=
          if_pos fits
        simp only [decode, if_pos fits, Decoder.firstOf, kinds, List.findSome?, read]
        rfl
      · have unread : Decoder.intBetween (-signPlace) signPlace (.int value) =
            .error .invalidValue := if_neg fits
        simp only [decode, if_neg fits, Decoder.firstOf, kinds, List.findSome?, unread]
        rfl
  | _ =>
      rfl

theorem leaf_ofInt {number : Int} (fits : IsSignedWord number) :
    (Json.int number).Leaf (.int (Int64.ofInt number)) := by
  have leaf := Leaf.int (Int64.ofInt number)
  rwa [Int64.toInt_ofInt_of_le fits.1 fits.2] at leaf

theorem decode_eq_ok_iff (json : Json) (value : PropertyValue) :
    decode json = .ok value ↔ json.Leaf value := by
  constructor
  · intro read
    cases json with
    | bool truth =>
        cases read
        exact .bool truth
    | int number =>
        by_cases fits : IsSignedWord number
        · rw [decode, if_pos fits] at read
          cases read
          exact leaf_ofInt fits
        · rw [decode, if_neg fits] at read
          cases read
          exact .largeInt fits
    | float number =>
        cases read
        exact .float number
    | text string =>
        cases read
        exact .text string
    | _ =>
        cases read
  · intro leaf
    cases leaf with
    | int number =>
        rw [decode, if_pos (isSignedWord_toInt number), Int64.ofInt_toInt]
    | largeInt large =>
        rw [decode, if_neg large]
    | _ =>
        rfl

theorem exists_leaf_iff (json : Json) : (∃ value, json.Leaf value) ↔ json.isLeaf = true := by
  constructor
  · rintro ⟨value, leaf⟩
    cases leaf <;> rfl
  · intro isLeaf
    cases json with
    | int number =>
        by_cases fits : IsSignedWord number
        · exact ⟨_, leaf_ofInt fits⟩
        · exact ⟨_, .largeInt fits⟩
    | bool truth =>
        exact ⟨_, .bool truth⟩
    | float number =>
        exact ⟨_, .float number⟩
    | text string =>
        exact ⟨_, .text string⟩
    | _ =>
        cases isLeaf

end PropertyValue

/-! ## Fields -/

namespace Entries

universe u

variable {alpha : Type u}

/-- Of several bindings of a key the last one stays. -/
theorem get?_ofList (pairs : List (String × alpha)) (key : String) :
    get? key (ofList pairs) = get? key pairs.reverse := by
  induction pairs using List.reverseRecOn with
  | nil =>
      rfl
  | append_singleton pairs last inductionHypothesis =>
      rw [ofList_concat, get?_insert _ _ _ _ (ascending_ofList pairs), inductionHypothesis,
        List.reverse_concat]
      rfl

end Entries

/-- An object lists its fields in the order of their keys; there the last field with a key is
the only one. -/
theorem held?_eq_field? {fields : List (String × Json)} (ascending : Entries.Ascending fields)
    (key : String) : (Json.object fields).held? key = (Json.object fields).field? key := by
  have rebuilt := Entries.ofList_of_ascending ascending
  rw [held?, ← Entries.get?_ofList, rebuilt]
  rfl

section Fields

variable {alpha : Type} {decode : Decoder alpha} {fields : List (String × Json)}
  {entries : List (String × alpha)}

/-- A field and the entry that is read from it. -/
def ReadsField (decode : Decoder alpha) (field : String × Json) (entry : String × alpha) :
    Prop :=
  field.1 = entry.1 ∧ decode field.2 = .ok entry.2

theorem entries_eq_ok_iff :
    Decoder.entries decode fields = .ok entries ↔
      List.Forall₂ (ReadsField decode) fields entries := by
  induction fields generalizing entries with
  | nil =>
      cases entries <;> simp [Decoder.entries]
  | cons field rest inductionHypothesis =>
      obtain ⟨key, json⟩ := field
      constructor
      · intro read
        obtain ⟨value, first, read⟩ := ok_of_bind read
        obtain ⟨others, later, read⟩ := ok_of_bind read
        cases read
        exact .cons ⟨rfl, first⟩ (inductionHypothesis.1 later)
      · rintro (_ | ⟨⟨same, first⟩, later⟩)
        obtain rfl := same
        rw [Decoder.entries, first, inductionHypothesis.2 later]
        rfl

theorem exists_entries_iff :
    (∃ entries, Decoder.entries decode fields = .ok entries) ↔
      ∀ field ∈ fields, ∃ value, decode field.2 = .ok value := by
  simp only [entries_eq_ok_iff]
  induction fields with
  | nil =>
      exact iff_of_true ⟨[], .nil⟩ nofun
  | cons field rest inductionHypothesis =>
      rw [List.forall_mem_cons, ← inductionHypothesis]
      constructor
      · rintro ⟨_, _ | ⟨⟨_, first⟩, later⟩⟩
        exact ⟨⟨_, first⟩, _, later⟩
      · rintro ⟨⟨value, first⟩, others, later⟩
        exact ⟨(field.1, value) :: others, .cons ⟨rfl, first⟩ later⟩

/-- What is found under a key is read from what was found under it. -/
theorem get?_of_forall₂ (read : List.Forall₂ (ReadsField decode) fields entries)
    (key : String) (value : alpha) :
    Entries.get? key entries = some value ↔
      ∃ held, Entries.get? key fields = some held ∧ decode held = .ok value := by
  induction read with
  | nil =>
      simp [Entries.get?]
  | @cons field entry others rest readsField _ inductionHypothesis =>
      obtain ⟨name, json⟩ := field
      obtain ⟨_, content⟩ := entry
      obtain ⟨rfl, first⟩ := readsField
      change decode json = .ok content at first
      by_cases same : name = key
      · simp [Entries.get?, same, first]
      · simp only [Entries.get?, if_neg same, inductionHypothesis]

end Fields

/-! ## Dictionaries -/

section Dictionaries

variable {alpha : Type} {decode : Decoder alpha}

/-- A dictionary is read from the fields of an object. -/
theorem dictionary_eq_ok {json : Json} {dictionary : Dictionary alpha}
    (read : Decoder.dictionary decode json = .ok dictionary) :
    ∃ fields entries, json = .object fields ∧
      List.Forall₂ (ReadsField decode) fields entries ∧ dictionary = .ofList entries := by
  cases json with
  | object fields =>
      obtain ⟨entries, fieldsRead, rfl⟩ := ok_of_map read
      exact ⟨fields, entries, rfl, entries_eq_ok_iff.1 fieldsRead, rfl⟩
  | _ =>
      cases read

theorem get?_of_dictionary {json : Json} {dictionary : Dictionary alpha}
    (read : Decoder.dictionary decode json = .ok dictionary) (key : String) (value : alpha) :
    dictionary.get? key = some value ↔
      ∃ held, json.held? key = some held ∧ decode held = .ok value := by
  obtain ⟨fields, entries, rfl, paired, rfl⟩ := dictionary_eq_ok read
  have backwards := List.forall₂_reverse_iff.2 paired
  rw [Dictionary.get?, Dictionary.ofList, Entries.get?_ofList, get?_of_forall₂ backwards]
  rfl

theorem exists_dictionary_iff {json : Json} :
    (∃ dictionary, Decoder.dictionary decode json = .ok dictionary) ↔
      ∃ fields, json = .object fields ∧ ∀ field ∈ fields, ∃ value, decode field.2 = .ok value := by
  constructor
  · rintro ⟨dictionary, read⟩
    obtain ⟨fields, entries, same, paired, _⟩ := dictionary_eq_ok read
    exact ⟨fields, same, exists_entries_iff.1 ⟨entries, entries_eq_ok_iff.2 paired⟩⟩
  · rintro ⟨fields, rfl, readable⟩
    obtain ⟨entries, read⟩ := exists_entries_iff.2 readable
    exact ⟨.ofList entries, by rw [Decoder.dictionary, read]; rfl⟩

/-- No key is left out, and none is made up. -/
theorem contains_of_dictionary {json : Json} {dictionary : Dictionary alpha}
    (read : Decoder.dictionary decode json = .ok dictionary) (key : String) :
    dictionary.contains key = (json.held? key).isSome := by
  rw [Bool.eq_iff_iff, Dictionary.contains, Option.isSome_iff_exists, Option.isSome_iff_exists]
  constructor
  · rintro ⟨value, found⟩
    obtain ⟨held, here, _⟩ := (get?_of_dictionary read key value).1 found
    exact ⟨held, here⟩
  · rintro ⟨held, here⟩
    obtain ⟨fields, rfl, readable⟩ := exists_dictionary_iff.1 ⟨dictionary, read⟩
    have member := List.mem_reverse.1 (Entries.mem_of_get?_eq_some here)
    obtain ⟨value, decoded⟩ := readable _ member
    exact ⟨value, (get?_of_dictionary read key value).2 ⟨held, here, decoded⟩⟩

end Dictionaries

/-! ## The data model -/

namespace InfoDictionary

theorem exists_decode_iff {json : Json} :
    (∃ dictionary, decode json = .ok dictionary) ↔
      ∃ fields, json = .object fields ∧ ∀ field ∈ fields, field.2.isLeaf = true := by
  simp only [← PropertyValue.exists_leaf_iff, ← PropertyValue.decode_eq_ok_iff]
  exact exists_dictionary_iff

theorem get?_of_decode {json : Json} {dictionary : InfoDictionary}
    (read : decode json = .ok dictionary) (key : String) (value : PropertyValue) :
    dictionary.get? key = some value ↔
      ∃ leaf, json.held? key = some leaf ∧ leaf.Leaf value := by
  simp only [← PropertyValue.decode_eq_ok_iff]
  exact get?_of_dictionary read key value

end InfoDictionary

namespace TraitsData

variable {json : Json} {data : TraitsData}

theorem decode_eq_ok_iff :
    decode json = .ok data ↔
      Decoder.dictionary InfoDictionary.decode json = .ok data.traits := by
  constructor
  · intro read
    obtain ⟨traits, traitsRead, rfl⟩ := ok_of_map read
    exact traitsRead
  · intro read
    rw [decode, read]
    rfl

theorem exists_decode_iff :
    (∃ data, decode json = .ok data) ↔
      ∃ fields, json = .object fields ∧
        ∀ field ∈ fields, ∃ properties, field.2 = .object properties ∧
          ∀ property ∈ properties, property.2.isLeaf = true := by
  simp only [← InfoDictionary.exists_decode_iff]
  rw [← exists_dictionary_iff]
  constructor
  · rintro ⟨data, read⟩
    exact ⟨data.traits, decode_eq_ok_iff.1 read⟩
  · rintro ⟨traits, read⟩
    exact ⟨⟨traits⟩, decode_eq_ok_iff.2 read⟩

theorem hasTrait_of_decode (read : decode json = .ok data) (trait : String) :
    data.hasTrait trait = (json.held? trait).isSome :=
  contains_of_dictionary (decode_eq_ok_iff.1 read) trait

/-- The properties of a trait are read from what stands under it, and from nothing else. -/
theorem properties_of_decode (read : decode json = .ok data) (trait : String) :
    (json.held? trait = none ∧ data.properties trait = .empty) ∨
      ∃ held, json.held? trait = some held ∧
        InfoDictionary.decode held = .ok (data.properties trait) := by
  have found := get?_of_dictionary (decode_eq_ok_iff.1 read) trait
  have contained := hasTrait_of_decode read trait
  unfold properties
  cases bound : data.traits.get? trait with
  | none =>
      rw [hasTrait, Dictionary.contains, bound, Option.isSome_none, eq_comm,
        Option.isSome_eq_false_iff, Option.isNone_iff_eq_none] at contained
      exact .inl ⟨contained, rfl⟩
  | some properties =>
      exact .inr ((found properties).1 bound)

theorem contains_properties_of_decode (read : decode json = .ok data) (trait key : String) :
    (data.properties trait).contains key = ((json.held? trait).bind (held? key)).isSome := by
  rcases properties_of_decode read trait with ⟨absent, none⟩ | ⟨held, here, properties⟩
  · rw [absent, none]
    rfl
  · rw [here, contains_of_dictionary properties]
    rfl

theorem property?_of_decode (read : decode json = .ok data) (trait key : String)
    (value : PropertyValue) :
    data.property? trait key = some value ↔
      ∃ properties leaf, json.held? trait = some properties ∧
        properties.held? key = some leaf ∧ leaf.Leaf value := by
  rw [property?]
  rcases properties_of_decode read trait with ⟨absent, none⟩ | ⟨held, here, properties⟩
  · rw [absent, none]
    simp
  · rw [InfoDictionary.get?_of_decode properties, here]
    simp

end TraitsData

/-- What is read from a document value as a property value, as a dictionary of settings and
as traits with their properties. -/
structure DecodingLaw (json : Json) : Prop where
  /-- A property value is read as the first of its kinds that fits. -/
  tried : PropertyValue.decode json =
    Decoder.firstOf PropertyValue.kinds .noPropertyValue json
  value_accepted_iff :
    (∃ value, PropertyValue.decode json = .ok value) ↔ json.isLeaf = true
  value_iff : ∀ value, PropertyValue.decode json = .ok value ↔ json.Leaf value
  /-- An object has its keys in ascending order, and then there is one field for each. -/
  held_eq : ∀ fields, json = .object fields → Entries.Ascending fields →
    ∀ key, json.held? key = json.field? key
  dictionary_accepted_iff : (∃ dictionary, InfoDictionary.decode json = .ok dictionary) ↔
    ∃ fields, json = .object fields ∧ ∀ field ∈ fields, field.2.isLeaf = true
  dictionary_keys : ∀ dictionary, InfoDictionary.decode json = .ok dictionary →
    ∀ key, dictionary.contains key = (json.held? key).isSome
  dictionary_values : ∀ dictionary, InfoDictionary.decode json = .ok dictionary →
    ∀ key value, dictionary.get? key = some value ↔
      ∃ leaf, json.held? key = some leaf ∧ leaf.Leaf value
  traits_accepted_iff : (∃ data, TraitsData.decode json = .ok data) ↔
    ∃ fields, json = .object fields ∧
      ∀ field ∈ fields, ∃ properties, field.2 = .object properties ∧
        ∀ property ∈ properties, property.2.isLeaf = true
  traits_keys : ∀ data, TraitsData.decode json = .ok data →
    ∀ trait, data.hasTrait trait = (json.held? trait).isSome ∧
      ∀ key, (data.properties trait).contains key =
        ((json.held? trait).bind (held? key)).isSome
  traits_values : ∀ data, TraitsData.decode json = .ok data →
    ∀ trait key value, data.property? trait key = some value ↔
      ∃ properties leaf, json.held? trait = some properties ∧
        properties.held? key = some leaf ∧ leaf.Leaf value

/-- Reading accepts exactly the data model, whatever the document value: truth values,
numbers and strings as property values, objects of these as dictionaries, and objects of such
objects as traits.  Each value is found where it stood, as it stood, and nothing else is
found. -/
theorem decoding_exact (json : Json) : DecodingLaw json where
  tried := PropertyValue.decode_eq_firstOf json
  value_accepted_iff := by
    simp only [PropertyValue.decode_eq_ok_iff]
    exact PropertyValue.exists_leaf_iff json
  value_iff := PropertyValue.decode_eq_ok_iff json
  held_eq := by
    rintro fields rfl ascending
    exact held?_eq_field? ascending
  dictionary_accepted_iff := InfoDictionary.exists_decode_iff
  dictionary_keys := fun _ read => contains_of_dictionary read
  dictionary_values := fun _ read => InfoDictionary.get?_of_decode read
  traits_accepted_iff := TraitsData.exists_decode_iff
  traits_keys := fun _ read trait =>
    ⟨TraitsData.hasTrait_of_decode read trait,
      TraitsData.contains_properties_of_decode read trait⟩
  traits_values := fun _ read => TraitsData.property?_of_decode read

/-- The least integer that fits no signed word is read as a double-precision number. -/
example : PropertyValue.decode (.int 0x8000000000000000) =
    .ok (.float ⟨0x43E0000000000000⟩) := by
  decide

/-- One property without a value is enough for the other trait to be refused too. -/
example : TraitsData.decode (.object [("located", .object [("path", .text "/a")]),
    ("sized", .object [("height", .int 2), ("width", .null)])]) =
      .error .noPropertyValue := rfl

end AssetExchange
