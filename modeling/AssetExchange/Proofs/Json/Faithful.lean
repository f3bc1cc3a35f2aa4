import AssetExchange.Json.Model
import Mathlib.Data.List.Induction

/-!
# Faithful encodings

An encoder and a decoder are faithful to each other if every value whose numbers are finite
is read back as it was written, and nothing else can be read from what a text can hold
(`Json.Proper`, `Faithful`).  Then a document value that can be read at all may be replaced
by what its value is written as (`Faithful.roundTrips`).

Dictionaries (`faithful_dictionary`), sets, named alternatives and optional values are
faithful if their parts are.  Records are read field by field; the last part says what that
takes (`field?_of_mem`) and what it yields (`finite_of_field?`, `finite_of_item?`).
-/

namespace AssetExchange

/-! ## Lists of entries -/

namespace Entries

universe u

variable {alpha : Type u}

theorem insert_of_below {key : String} {value : alpha} {entries : List (String × alpha)}
    (below : ∀ entry ∈ entries, entry.1 < key) :
    insert key value entries = entries ++ [(key, value)] := by
  induction entries with
  | nil =>
      rfl
  | cons head rest inductionHypothesis =>
      obtain ⟨name, held⟩ := head
      have smaller : name < key := below (name, held) List.mem_cons_self
      have different : name ≠ key := by
        rintro rfl
        exact String.lt_irrefl name smaller
      have rest := inductionHypothesis fun entry member =>
        below entry (List.mem_cons_of_mem _ member)
      rw [insert, if_neg (String.lt_asymm smaller), if_neg different, rest, List.cons_append]

theorem ofList_concat (pairs : List (String × alpha)) (last : String × alpha) :
    ofList (pairs ++ [last]) = insert last.1 last.2 (ofList pairs) :=
  List.foldl_append

/-- Inserting the entries of an ascending list one after the other rebuilds it. -/
theorem ofList_of_ascending {entries : List (String × alpha)} (ascending : Ascending entries) :
    ofList entries = entries := by
  induction entries using List.reverseRecOn with
  | nil =>
      rfl
  | append_singleton entries last inductionHypothesis =>
      obtain ⟨before, _, below⟩ := List.pairwise_append.mp ascending
      rw [ofList_concat, inductionHypothesis before, insert_of_below]
      intro entry member
      exact below entry member last (List.mem_singleton_self last)

theorem ascending_pair {first second : String} (less : first < second) (value other : alpha) :
    Ascending [(first, value), (second, other)] := by
  refine List.Pairwise.cons (fun entry member => ?_) (List.pairwise_singleton _ _)
  rw [List.mem_singleton.1 member]
  exact less

theorem ofList_pair {first second : String} (less : first < second) (value other : alpha) :
    ofList [(first, value), (second, other)] = [(first, value), (second, other)] :=
  ofList_of_ascending (ascending_pair less value other)

theorem insert_front {first second : String} (less : first < second) (value other : alpha)
    (rest : List (String × alpha)) :
    insert first value ((second, other) :: rest) = (first, value) :: (second, other) :: rest :=
  if_pos less

theorem ofList_swapped {first second : String} (less : first < second) (value other : alpha) :
    ofList [(second, other), (first, value)] = [(first, value), (second, other)] :=
  insert_front less value other []

theorem mem_of_mem_ofList {pairs : List (String × alpha)} {entry : String × alpha}
    (member : entry ∈ ofList pairs) : entry ∈ pairs := by
  induction pairs using List.reverseRecOn with
  | nil =>
      exact member
  | append_singleton pairs last inductionHypothesis =>
      rw [ofList_concat] at member
      rcases mem_insert _ _ _ _ member with same | earlier
      · exact List.mem_append_right _ (List.mem_singleton.mpr same)
      · exact List.mem_append_left _ (inductionHypothesis earlier)

/-- A key that is bound once is found with its value. -/
theorem get?_ofList_of_mem {pairs : List (String × alpha)}
    (distinct : (pairs.map Prod.fst).Nodup) {key : String} {value : alpha}
    (member : (key, value) ∈ pairs) : get? key (ofList pairs) = some value := by
  induction pairs using List.reverseRecOn with
  | nil =>
      cases member
  | append_singleton pairs last inductionHypothesis =>
      rw [List.map_append, List.nodup_append] at distinct
      obtain ⟨distinctBefore, _, apart⟩ := distinct
      rw [ofList_concat, get?_insert _ _ _ _ (ascending_ofList pairs)]
      rcases List.mem_append.mp member with earlier | same
      · have different : last.1 ≠ key := fun equal =>
          apart key (List.mem_map_of_mem earlier) last.1 (List.mem_singleton_self _) equal.symm
        rw [if_neg different]
        exact inductionHypothesis distinctBefore earlier
      · rw [← List.mem_singleton.mp same, if_pos rfl]

theorem mem_of_get?_eq_some {key : String} {value : alpha} {entries : List (String × alpha)}
    (found : get? key entries = some value) : (key, value) ∈ entries := by
  induction entries with
  | nil =>
      cases found
  | cons head rest inductionHypothesis =>
      obtain ⟨name, held⟩ := head
      rw [get?] at found
      by_cases same : name = key
      · rw [if_pos same] at found
        cases found
        rw [same]
        exact List.mem_cons_self
      · rw [if_neg same] at found
        exact List.mem_cons_of_mem _ (inductionHypothesis found)

theorem get?_ofList_eq_none {pairs : List (String × alpha)} {key : String}
    (absent : key ∉ pairs.map Prod.fst) : get? key (ofList pairs) = none := by
  cases found : get? key (ofList pairs) with
  | none =>
      rfl
  | some value =>
      have member := mem_of_mem_ofList (mem_of_get?_eq_some found)
      exact absurd (List.mem_map_of_mem member) absent

end Entries

/-! ## Successful readings -/

section Readings

variable {epsilon alpha beta : Type} {first : Except epsilon alpha}

theorem ok_of_bind {next : alpha → Except epsilon beta} {result : beta}
    (done : (first >>= next) = .ok result) :
    ∃ value, first = .ok value ∧ next value = .ok result := by
  cases first with
  | error reason =>
      cases done
  | ok value =>
      exact ⟨value, rfl, done⟩

theorem ok_of_map {change : alpha → beta} {result : beta}
    (done : first.map change = .ok result) :
    ∃ value, first = .ok value ∧ change value = result := by
  cases first with
  | error reason =>
      cases done
  | ok value =>
      exact ⟨value, rfl, Except.ok.inj done⟩

end Readings

/-! ## Faithful encodings -/

/-- A document value as a text can hold it: integers are within sixty-four bits, signed or
unsigned, and double-precision numbers are finite. -/
inductive Json.Proper : Json → Prop
  | null : Proper .null
  | bool (value : Bool) : Proper (.bool value)
  | int {value : Int} (low : -(signPlace : Int) ≤ value) (high : value < wordLimit) :
      Proper (.int value)
  | float {value : Binary64} (finite : value.isFinite = true) : Proper (.float value)
  | text (value : String) : Proper (.text value)
  | list {items : List Json} (proper : ∀ item ∈ items, Proper item) : Proper (.list items)
  | object {fields : List (String × Json)} (proper : ∀ field ∈ fields, Proper field.2) :
      Proper (.object fields)

theorem Json.proper_ofFields {fields : List (String × Json)}
    (proper : ∀ field ∈ fields, field.2.Proper) : (Json.ofFields fields).Proper :=
  .object fun field member => proper field (Entries.mem_of_mem_ofList member)

theorem Json.proper_ofPair {firstKey secondKey : String} {first second : Json}
    (proper : first.Proper) (properSecond : second.Proper) :
    (Json.ofFields [(firstKey, first), (secondKey, second)]).Proper := by
  apply Json.proper_ofFields
  intro field member
  rcases List.mem_cons.mp member with rfl | last
  · exact proper
  · rw [List.mem_singleton.mp last]
    exact properSecond

/-- Every finite value is written as a proper document value and read back as it was
written, and nothing but finite values is read. -/
structure Faithful {alpha : Type} (encode : alpha → Json) (decode : Decoder alpha)
    (finite : alpha → Bool) : Prop where
  proper_encode : ∀ value, finite value = true → (encode value).Proper
  decode_encode : ∀ value, finite value = true → decode (encode value) = .ok value
  finite_of_decode : ∀ json value, json.Proper → decode json = .ok value →
    finite value = true

/-- What is read back of a value, and of a document value that could be read. -/
structure RoundTrips {alpha : Type} (encode : alpha → Json) (decode : Decoder alpha)
    (finite : alpha → Bool) : Prop where
  value : ∀ value, finite value = true →
    (encode value).Proper ∧ decode (encode value) = .ok value
  document : ∀ json value, json.Proper → decode json = .ok value →
    decode (encode value) = .ok value

namespace Faithful

variable {alpha : Type} {encode : alpha → Json} {decode : Decoder alpha}
  {finite : alpha → Bool}

theorem roundTrips (faithful : Faithful encode decode finite) :
    RoundTrips encode decode finite := by
  constructor
  case value =>
    intro value finite
    exact ⟨faithful.proper_encode value finite, faithful.decode_encode value finite⟩
  case document =>
    intro json value proper decoded
    exact faithful.decode_encode value (faithful.finite_of_decode json value proper decoded)

/-- Where there are no numbers, reading back suffices. -/
theorem of_decode_encode (proper : ∀ value, (encode value).Proper)
    (readBack : ∀ value, decode (encode value) = .ok value) :
    Faithful encode decode fun _ => true :=
  ⟨fun value _ => proper value, fun value _ => readBack value, fun _ _ _ _ => rfl⟩

end Faithful

/-! ## Dictionaries and sets -/

section Dictionaries

variable {alpha : Type} {encode : alpha → Json} {decode : Decoder alpha}
  {finite : alpha → Bool}

/-- Whether all values of a dictionary are finite. -/
def Dictionary.allFinite (finite : alpha → Bool) (dictionary : Dictionary alpha) : Bool :=
  dictionary.entries.all fun entry => finite entry.2

theorem entries_encode (faithful : Faithful encode decode finite)
    {entries : List (String × alpha)} (allFinite : ∀ entry ∈ entries, finite entry.2 = true) :
    Decoder.entries decode (entries.map fun entry => (entry.1, encode entry.2)) =
      .ok entries := by
  induction entries with
  | nil =>
      rfl
  | cons head rest inductionHypothesis =>
      have first : decode (encode head.2) = .ok head.2 :=
        faithful.decode_encode head.2 (allFinite head List.mem_cons_self)
      have others := inductionHypothesis fun entry member =>
        allFinite entry (List.mem_cons_of_mem _ member)
      rw [List.map_cons, Decoder.entries, first, others]
      rfl

theorem finite_of_entries (faithful : Faithful encode decode finite)
    {fields : List (String × Json)} (proper : ∀ field ∈ fields, field.2.Proper)
    {entries : List (String × alpha)} (decoded : Decoder.entries decode fields = .ok entries) :
    ∀ entry ∈ entries, finite entry.2 = true := by
  induction fields generalizing entries with
  | nil =>
      cases decoded
      simp
  | cons field rest inductionHypothesis =>
      obtain ⟨key, json⟩ := field
      obtain ⟨value, first, decoded⟩ := ok_of_bind decoded
      obtain ⟨found, others, decoded⟩ := ok_of_bind decoded
      cases decoded
      intro entry member
      rcases List.mem_cons.mp member with rfl | later
      · exact faithful.finite_of_decode json value
          (proper (key, json) List.mem_cons_self) first
      · exact inductionHypothesis
          (fun field member => proper field (List.mem_cons_of_mem _ member)) others entry later

theorem faithful_dictionary (faithful : Faithful encode decode finite) :
    Faithful (Json.ofDictionary encode) (Decoder.dictionary decode)
      (Dictionary.allFinite finite) := by
  constructor
  case proper_encode =>
    intro dictionary allFinite
    apply Json.Proper.object
    intro field member
    obtain ⟨entry, held, rfl⟩ := List.mem_map.mp member
    exact faithful.proper_encode entry.2 (List.all_eq_true.mp allFinite entry held)
  case decode_encode =>
    intro dictionary allFinite
    have read := entries_encode faithful (List.all_eq_true.mp allFinite)
    have rebuilt : Dictionary.ofList dictionary.entries = dictionary := by
      cases dictionary
      simp only [Dictionary.ofList, Entries.ofList_of_ascending, *]
    rw [Json.ofDictionary, Decoder.dictionary, Dictionary.map, read]
    exact congrArg Except.ok rebuilt
  case finite_of_decode =>
    intro json dictionary proper decoded
    cases proper with
    | @object fields proper =>
        obtain ⟨entries, read, rfl⟩ := ok_of_map decoded
        apply List.all_eq_true.mpr
        intro entry member
        exact finite_of_entries faithful proper read entry (Entries.mem_of_mem_ofList member)
    | _ =>
        cases decoded

end Dictionaries

theorem list_text_ofTexts (texts : List String) :
    Decoder.list Decoder.text (Json.ofTexts texts) = .ok texts := by
  unfold Decoder.list Json.ofTexts
  dsimp only
  induction texts with
  | nil =>
      rfl
  | cons first rest inductionHypothesis =>
      rw [List.map_cons, List.mapM_cons, inductionHypothesis]
      rfl

theorem faithful_nameSet : Faithful NameSet.encode Decoder.nameSet fun _ => true := by
  apply Faithful.of_decode_encode
  case proper =>
    intro names
    apply Json.Proper.list
    intro item member
    obtain ⟨name, _, rfl⟩ := List.mem_map.mp member
    exact .text name
  case readBack =>
    intro names
    have rebuilt : NameSet.ofList names.toList = names := by
      apply NameSet.ext_contains
      intro name
      rw [NameSet.contains_ofList, Bool.eq_iff_iff, List.contains_iff_mem,
        NameSet.mem_toList_iff]
    rw [Decoder.nameSet, NameSet.encode, list_text_ofTexts]
    exact congrArg Except.ok rebuilt

theorem faithful_named (alpha : Type) [Enumerated alpha] :
    Faithful (Enumerated.encode : alpha → Json) (Decoder.enumerated alpha) fun _ => true := by
  apply Faithful.of_decode_encode
  case proper =>
    intro value
    exact .text _
  case readBack =>
    intro value
    rw [Enumerated.encode, Decoder.enumerated, Decoder.byName, Enumerated.named?_name]

/-! ## Records -/

theorem faithful_text : Faithful Json.text Decoder.text fun _ => true :=
  Faithful.of_decode_encode .text fun _ => rfl

section Records

variable {alpha : Type} {encode : alpha → Json} {decode : Decoder alpha}
  {finite : alpha → Bool}

theorem optional_of_ne_null (decode : Decoder alpha) {json : Json} (present : json ≠ .null) :
    Decoder.optional decode json = (decode json).map some := by
  cases json with
  | null =>
      exact absurd rfl present
  | _ =>
      rfl

theorem faithful_optional (faithful : Faithful encode decode finite)
    (present : ∀ value, encode value ≠ .null) :
    Faithful (Json.ofOption encode) (Decoder.optional decode) (Option.all finite) := by
  constructor
  case proper_encode =>
    intro given allFinite
    cases given with
    | none =>
        exact .null
    | some value =>
        exact faithful.proper_encode value allFinite
  case decode_encode =>
    intro given allFinite
    cases given with
    | none =>
        rfl
    | some value =>
        have read := faithful.decode_encode value allFinite
        rw [Json.ofOption, optional_of_ne_null decode (present value), read]
        rfl
  case finite_of_decode =>
    intro json given proper decoded
    by_cases absent : json = .null
    · rw [absent] at decoded
      cases decoded
      rfl
    · rw [optional_of_ne_null decode absent] at decoded
      obtain ⟨value, read, rfl⟩ := ok_of_map decoded
      exact faithful.finite_of_decode json value proper read

theorem field?_of_mem {fields : List (String × Json)} (distinct : (fields.map Prod.fst).Nodup)
    {key : String} {json : Json} (member : (key, json) ∈ fields) {value : alpha}
    (read : decode json = .ok value) :
    Decoder.field? decode key (Entries.ofList fields) = .ok (some value) := by
  rw [Decoder.field?, Entries.get?_ofList_of_mem distinct member]
  dsimp only
  rw [read]
  rfl

/-- Both fields of a record of two are read back. -/
theorem field?_pair {beta : Type} {decodeSecond : Decoder beta} {firstKey secondKey : String}
    (different : firstKey ≠ secondKey) {first second : Json} {value : alpha} {other : beta}
    (read : decode first = .ok value) (readSecond : decodeSecond second = .ok other) :
    Decoder.field? decode firstKey
          (Entries.ofList [(firstKey, first), (secondKey, second)]) = .ok (some value) ∧
      Decoder.field? decodeSecond secondKey
          (Entries.ofList [(firstKey, first), (secondKey, second)]) = .ok (some other) := by
  have distinct : ([(firstKey, first), (secondKey, second)].map Prod.fst).Nodup := by
    simp [different]
  constructor
  · exact field?_of_mem distinct List.mem_cons_self read
  · exact field?_of_mem distinct (List.mem_cons_of_mem _ List.mem_cons_self) readSecond

theorem finite_of_field? (faithful : Faithful encode decode finite)
    {fields : List (String × Json)} (proper : ∀ field ∈ fields, field.2.Proper) {key : String}
    {given : Option alpha} (read : Decoder.field? decode key fields = .ok given) :
    given.all finite = true := by
  rw [Decoder.field?] at read
  cases found : Entries.get? key fields with
  | none =>
      rw [found] at read
      cases read
      rfl
  | some json =>
      rw [found] at read
      obtain ⟨value, decoded, rfl⟩ := ok_of_map read
      exact faithful.finite_of_decode json value
        (proper (key, json) (Entries.mem_of_get?_eq_some found)) decoded

theorem finite_of_item? (faithful : Faithful encode decode finite) {items : List Json}
    (proper : ∀ item ∈ items, item.Proper) {given : Option alpha} {rest : List Json}
    (read : Decoder.item? decode items = .ok (given, rest)) :
    given.all finite = true ∧ ∀ item ∈ rest, item.Proper := by
  cases items with
  | nil =>
      cases read
      exact ⟨rfl, proper⟩
  | cons first others =>
      obtain ⟨value, decoded, same⟩ := ok_of_map read
      cases same
      have finite := faithful.finite_of_decode first value
        (proper first List.mem_cons_self) decoded
      exact ⟨finite, fun item member => proper item (List.mem_cons_of_mem _ member)⟩

end Records

end AssetExchange
