/-!
# Dictionaries

A dictionary binds string keys to values. Its entries are listed in strictly
ascending order of their keys, compared by code point, so a dictionary is
determined by its bindings and listing it never depends on how it was built.

The operations are defined on plain lists of entries first (`Entries`), because
document trees nest such lists inside themselves; `Dictionary` packs a list
with the proof that it ascends. The main statements say what a look-up finds
after each operation (`get?_insert`, `get?_erase`, `get?_map`) and that equal
look-ups mean equal dictionaries (`ext_get?`).
-/

namespace AssetExchange

universe u v

/-! ## Lists of entries -/

namespace Entries

variable {alpha : Type u} {beta : Type v}

def Ascending (entries : List (String × alpha)) : Prop :=
  entries.Pairwise fun first second => first.1 < second.1

/-- The value of the first entry with this key. -/
def get? (key : String) : List (String × alpha) → Option alpha
  | [] => none
  | (name, value) :: rest => if name = key then some value else get? key rest

/-- Binds a key at its place in the order, replacing an earlier binding. -/
def insert (key : String) (value : alpha) :
    List (String × alpha) → List (String × alpha)
  | [] => [(key, value)]
  | (name, held) :: rest =>
      if key < name then (key, value) :: (name, held) :: rest
      else if name = key then (key, value) :: rest
      else (name, held) :: insert key value rest

def erase (key : String) : List (String × alpha) → List (String × alpha)
  | [] => []
  | (name, held) :: rest =>
      if name = key then rest else (name, held) :: erase key rest

/-- Inserts every pair of a list, so that the last binding of a key stays. -/
def ofList (pairs : List (String × alpha)) : List (String × alpha) :=
  pairs.foldl (fun entries pair => insert pair.1 pair.2 entries) []

theorem ascending_nil : Ascending ([] : List (String × alpha)) :=
  List.Pairwise.nil

theorem ascending_cons_iff (head : String × alpha)
    (tail : List (String × alpha)) :
    Ascending (head :: tail) ↔
      (∀ entry ∈ tail, head.1 < entry.1) ∧ Ascending tail :=
  List.pairwise_cons

/-- In an ascending list what is smaller than an item stands before it. -/
theorem mem_before_of_ascending {item : Type u} (key : item → String)
    {before after : List item} {here other : item}
    (ascending : (before ++ here :: after).Pairwise fun first second => key first < key second)
    (member : other ∈ before ++ here :: after) (below : key other < key here) :
    other ∈ before := by
  rcases List.mem_append.1 member with earlier | later
  · exact earlier
  · exfalso
    have fromHere := (List.pairwise_append.1 ascending).2.1
    rcases List.mem_cons.1 later with rfl | behind
    · exact String.lt_irrefl _ below
    · have above := (List.pairwise_cons.1 fromHere).1 other behind
      exact String.lt_irrefl _ (String.lt_trans above below)

theorem mem_insert (key : String) (value : alpha)
    (entries : List (String × alpha)) (entry : String × alpha)
    (member : entry ∈ insert key value entries) :
    entry = (key, value) ∨ entry ∈ entries := by
  induction entries with
  | nil => simpa [insert] using member
  | cons head rest inductionHypothesis =>
      obtain ⟨name, held⟩ := head
      simp only [insert] at member
      split at member
      · simpa using member
      · split at member
        · rcases List.mem_cons.1 member with same | inside
          · exact Or.inl same
          · exact Or.inr (List.mem_cons_of_mem _ inside)
        · rcases List.mem_cons.1 member with same | inside
          · exact Or.inr (same ▸ List.mem_cons_self)
          · exact (inductionHypothesis inside).imp_right (List.mem_cons_of_mem _)

theorem ascending_insert (key : String) (value : alpha)
    (entries : List (String × alpha)) (ascending : Ascending entries) :
    Ascending (insert key value entries) := by
  induction entries with
  | nil => simp [insert, Ascending]
  | cons head rest inductionHypothesis =>
      obtain ⟨name, held⟩ := head
      obtain ⟨below, restAscending⟩ := (ascending_cons_iff _ _).1 ascending
      simp only [insert]
      split
      · rename_i smaller
        refine (ascending_cons_iff _ _).2 ⟨fun entry member => ?_, ascending⟩
        rcases List.mem_cons.1 member with same | inside
        · exact same ▸ smaller
        · exact String.lt_trans smaller (below entry inside)
      · split
        · rename_i same
          exact (ascending_cons_iff _ _).2
            ⟨fun entry member => same ▸ below entry member, restAscending⟩
        · rename_i notSmaller different
          refine (ascending_cons_iff _ _).2
            ⟨fun entry member => ?_, inductionHypothesis restAscending⟩
          rcases mem_insert key value rest entry member with same | inside
          · subst same
            exact Std.lt_of_le_of_ne (String.not_lt.1 notSmaller) different
          · exact below entry inside

theorem mem_of_mem_erase {key : String} {entries : List (String × alpha)}
    {entry : String × alpha} (member : entry ∈ erase key entries) :
    entry ∈ entries := by
  induction entries with
  | nil => simp [erase] at member
  | cons head rest inductionHypothesis =>
      obtain ⟨name, held⟩ := head
      simp only [erase] at member
      split at member
      · exact List.mem_cons_of_mem _ member
      · rcases List.mem_cons.1 member with same | inside
        · exact same ▸ List.mem_cons_self
        · exact List.mem_cons_of_mem _ (inductionHypothesis inside)

theorem ascending_erase (key : String) (entries : List (String × alpha))
    (ascending : Ascending entries) : Ascending (erase key entries) := by
  induction entries with
  | nil => simp [erase, Ascending]
  | cons head rest inductionHypothesis =>
      obtain ⟨name, held⟩ := head
      obtain ⟨below, restAscending⟩ := (ascending_cons_iff _ _).1 ascending
      simp only [erase]
      split
      · exact restAscending
      · exact (ascending_cons_iff _ _).2
          ⟨fun entry member => below entry (mem_of_mem_erase member),
            inductionHypothesis restAscending⟩

theorem ascending_ofList (pairs : List (String × alpha)) :
    Ascending (ofList pairs) := by
  have step : ∀ (rest : List (String × alpha)) (start : List (String × alpha)),
      Ascending start →
        Ascending (rest.foldl (fun entries pair => insert pair.1 pair.2 entries) start) := by
    intro rest
    induction rest with
    | nil => exact fun _ ascending => ascending
    | cons pair rest inductionHypothesis =>
        exact fun start ascending =>
          inductionHypothesis _ (ascending_insert pair.1 pair.2 start ascending)
  exact step pairs [] ascending_nil

theorem ascending_map_iff (change : alpha → beta) (entries : List (String × alpha)) :
    Ascending (entries.map fun entry => (entry.1, change entry.2)) ↔ Ascending entries := by
  simp [Ascending, List.pairwise_map]

theorem get?_eq_none_of_below {key : String} {entries : List (String × alpha)}
    (below : ∀ entry ∈ entries, key < entry.1) : get? key entries = none := by
  induction entries with
  | nil => rfl
  | cons head rest inductionHypothesis =>
      obtain ⟨name, held⟩ := head
      have smaller : key < name := below (name, held) List.mem_cons_self
      have different : name ≠ key := fun same =>
        String.lt_irrefl key (same ▸ smaller)
      simp only [get?, if_neg different]
      exact inductionHypothesis fun entry member =>
        below entry (List.mem_cons_of_mem _ member)

theorem get?_insert (key other : String) (value : alpha)
    (entries : List (String × alpha)) (ascending : Ascending entries) :
    get? other (insert key value entries) =
      if key = other then some value else get? other entries := by
  induction entries with
  | nil => simp [insert, get?]
  | cons head rest inductionHypothesis =>
      obtain ⟨name, held⟩ := head
      obtain ⟨_, restAscending⟩ := (ascending_cons_iff _ _).1 ascending
      simp only [insert]
      split
      · simp [get?]
      · split
        · rename_i same
          subst same
          simp only [get?]
          split <;> rfl
        · rename_i different
          simp only [get?, inductionHypothesis restAscending]
          by_cases first : name = other
          · subst first
            simp [Ne.symm different]
          · simp [first]

theorem get?_erase (key other : String)
    (entries : List (String × alpha)) (ascending : Ascending entries) :
    get? other (erase key entries) =
      if key = other then none else get? other entries := by
  induction entries with
  | nil => simp [erase, get?]
  | cons head rest inductionHypothesis =>
      obtain ⟨name, held⟩ := head
      obtain ⟨below, restAscending⟩ := (ascending_cons_iff _ _).1 ascending
      simp only [erase]
      split
      · rename_i same
        subst same
        by_cases first : name = other
        · subst first
          simp [get?_eq_none_of_below below]
        · simp [get?, first]
      · rename_i different
        simp only [get?, inductionHypothesis restAscending]
        by_cases first : name = other
        · subst first
          simp [Ne.symm different]
        · simp [first]

theorem get?_map (key : String) (change : alpha → beta)
    (entries : List (String × alpha)) :
    get? key (entries.map fun entry => (entry.1, change entry.2)) =
      (get? key entries).map change := by
  induction entries with
  | nil => rfl
  | cons head rest inductionHypothesis =>
      simp only [List.map_cons, get?, inductionHypothesis]
      split <;> rfl

theorem mem_iff_get?_eq_some (entries : List (String × alpha))
    (ascending : Ascending entries) (key : String) (value : alpha) :
    (key, value) ∈ entries ↔ get? key entries = some value := by
  induction entries with
  | nil => simp [get?]
  | cons head rest inductionHypothesis =>
      obtain ⟨name, held⟩ := head
      obtain ⟨below, restAscending⟩ := (ascending_cons_iff _ _).1 ascending
      simp only [get?, List.mem_cons, Prod.mk.injEq, inductionHypothesis restAscending]
      by_cases same : name = key
      · subst same
        simp [get?_eq_none_of_below below, eq_comm]
      · simp [same, Ne.symm same]

/-- Two ascending lists with the same look-ups are the same list. -/
theorem eq_of_get?_eq (first second : List (String × alpha))
    (firstAscending : Ascending first) (secondAscending : Ascending second)
    (same : ∀ key, get? key first = get? key second) : first = second := by
  induction first generalizing second with
  | nil =>
      cases second with
      | nil => rfl
      | cons head rest => simpa [get?] using same head.1
  | cons head rest inductionHypothesis =>
      obtain ⟨name, held⟩ := head
      obtain ⟨below, restAscending⟩ := (ascending_cons_iff _ _).1 firstAscending
      cases second with
      | nil => simpa [get?] using same name
      | cons other others =>
          obtain ⟨otherName, otherHeld⟩ := other
          obtain ⟨otherBelow, othersAscending⟩ :=
            (ascending_cons_iff _ _).1 secondAscending
          have namesAgree : name = otherName := by
            by_cases agree : name = otherName
            · exact agree
            · have fromFirst := same name
              have fromSecond := same otherName
              simp only [get?, if_pos, if_neg agree, if_neg (Ne.symm agree)]
                at fromFirst fromSecond
              have inOthers := (mem_iff_get?_eq_some others othersAscending
                name held).2 fromFirst.symm
              have inRest := (mem_iff_get?_eq_some rest restAscending
                otherName otherHeld).2 fromSecond
              exact absurd (String.lt_trans (otherBelow _ inOthers)
                (below _ inRest)) (String.lt_irrefl _)
          subst namesAgree
          have valuesAgree := same name
          simp only [get?, if_pos] at valuesAgree
          cases valuesAgree
          congr 1
          refine inductionHypothesis others restAscending othersAscending fun key => ?_
          by_cases agree : name = key
          · subst agree
            rw [get?_eq_none_of_below below, get?_eq_none_of_below otherBelow]
          · simpa [get?, agree] using same key

end Entries

/-! ## Dictionaries -/

/-- A finite map from strings, listed in ascending order of its keys. -/
structure Dictionary (alpha : Type u) where
  entries : List (String × alpha)
  ascending : Entries.Ascending entries

namespace Dictionary

variable {alpha : Type u} {beta : Type v}

instance [DecidableEq alpha] : DecidableEq (Dictionary alpha) :=
  fun first second =>
    decidable_of_iff (first.entries = second.entries) <| by
      cases first
      cases second
      simp

def empty : Dictionary alpha := ⟨[], Entries.ascending_nil⟩

instance : Inhabited (Dictionary alpha) := ⟨empty⟩

instance : EmptyCollection (Dictionary alpha) := ⟨empty⟩

def get? (dictionary : Dictionary alpha) (key : String) : Option alpha :=
  Entries.get? key dictionary.entries

def contains (dictionary : Dictionary alpha) (key : String) : Bool :=
  (dictionary.get? key).isSome

def insert (dictionary : Dictionary alpha) (key : String) (value : alpha) :
    Dictionary alpha :=
  ⟨Entries.insert key value dictionary.entries,
    Entries.ascending_insert key value dictionary.entries dictionary.ascending⟩

def erase (dictionary : Dictionary alpha) (key : String) : Dictionary alpha :=
  ⟨Entries.erase key dictionary.entries,
    Entries.ascending_erase key dictionary.entries dictionary.ascending⟩

/-- The dictionary of a list of bindings; the last binding of a key stays. -/
def ofList (pairs : List (String × alpha)) : Dictionary alpha :=
  ⟨Entries.ofList pairs, Entries.ascending_ofList pairs⟩

def toList (dictionary : Dictionary alpha) : List (String × alpha) :=
  dictionary.entries

def keys (dictionary : Dictionary alpha) : List String :=
  dictionary.entries.map Prod.fst

def size (dictionary : Dictionary alpha) : Nat :=
  dictionary.entries.length

def isEmpty (dictionary : Dictionary alpha) : Bool :=
  dictionary.entries.isEmpty

def map (change : alpha → beta) (dictionary : Dictionary alpha) :
    Dictionary beta :=
  ⟨dictionary.entries.map fun entry => (entry.1, change entry.2),
    (Entries.ascending_map_iff change dictionary.entries).2 dictionary.ascending⟩

/-- Changes the value of a key; an unbound key starts from `fresh`. -/
def alter (dictionary : Dictionary alpha) (key : String) (fresh : alpha)
    (change : alpha → alpha) : Dictionary alpha :=
  dictionary.insert key (change ((dictionary.get? key).getD fresh))

/-- Same keys with values related in the same places. -/
def allMatch (related : alpha → beta → Bool) (first : Dictionary alpha)
    (second : Dictionary beta) : Bool :=
  first.size == second.size &&
    (first.entries.zip second.entries).all fun (left, right) =>
      left.1 == right.1 && related left.2 right.2

@[simp] theorem get?_empty (key : String) :
    (empty : Dictionary alpha).get? key = none := rfl

@[simp] theorem toList_empty : (empty : Dictionary alpha).toList = [] := rfl

theorem get?_insert (dictionary : Dictionary alpha) (key other : String)
    (value : alpha) :
    (dictionary.insert key value).get? other =
      if key = other then some value else dictionary.get? other :=
  Entries.get?_insert key other value dictionary.entries dictionary.ascending

@[simp] theorem get?_insert_self (dictionary : Dictionary alpha) (key : String)
    (value : alpha) : (dictionary.insert key value).get? key = some value := by
  simp [get?_insert]

theorem get?_insert_of_ne (dictionary : Dictionary alpha) {key other : String}
    (value : alpha) (different : key ≠ other) :
    (dictionary.insert key value).get? other = dictionary.get? other := by
  simp [get?_insert, different]

theorem get?_erase (dictionary : Dictionary alpha) (key other : String) :
    (dictionary.erase key).get? other =
      if key = other then none else dictionary.get? other :=
  Entries.get?_erase key other dictionary.entries dictionary.ascending

@[simp] theorem get?_map (change : alpha → beta)
    (dictionary : Dictionary alpha) (key : String) :
    (dictionary.map change).get? key = (dictionary.get? key).map change :=
  Entries.get?_map key change dictionary.entries

theorem mem_toList_iff (dictionary : Dictionary alpha) (key : String)
    (value : alpha) :
    (key, value) ∈ dictionary.toList ↔ dictionary.get? key = some value :=
  Entries.mem_iff_get?_eq_some dictionary.entries dictionary.ascending key value

/-- A dictionary is determined by its look-ups. -/
theorem ext_get? {first second : Dictionary alpha}
    (same : ∀ key, first.get? key = second.get? key) : first = second := by
  obtain ⟨firstEntries, firstAscending⟩ := first
  obtain ⟨secondEntries, secondAscending⟩ := second
  have entriesAgree : firstEntries = secondEntries :=
    Entries.eq_of_get?_eq firstEntries secondEntries firstAscending
      secondAscending same
  subst entriesAgree
  rfl

theorem erase_of_absent {dictionary : Dictionary alpha} {key : String}
    (absent : dictionary.get? key = none) :
    dictionary.erase key = dictionary := by
  apply ext_get?
  intro other
  rw [get?_erase]
  by_cases same : key = other
  · rw [if_pos same, ← same, absent]
  · rw [if_neg same]

theorem erase_insert (dictionary : Dictionary alpha) (key : String) (value : alpha) :
    (dictionary.insert key value).erase key = dictionary.erase key := by
  apply ext_get?
  intro other
  rw [get?_erase, get?_erase]
  by_cases same : key = other
  · rw [if_pos same, if_pos same]
  · rw [if_neg same, if_neg same, get?_insert_of_ne dictionary value same]

/-- What was removed can be put back. -/
theorem insert_erase {dictionary : Dictionary alpha} {key : String} {value : alpha}
    (bound : dictionary.get? key = some value) :
    (dictionary.erase key).insert key value = dictionary := by
  apply ext_get?
  intro other
  rw [get?_insert, get?_erase]
  by_cases same : key = other
  · rw [if_pos same, ← same, bound]
  · rw [if_neg same, if_neg same]

theorem insert_of_bound {dictionary : Dictionary alpha} {key : String} {value : alpha}
    (bound : dictionary.get? key = some value) : dictionary.insert key value = dictionary := by
  apply ext_get?
  intro other
  rw [get?_insert]
  by_cases same : key = other
  · rw [if_pos same, ← same, bound]
  · rw [if_neg same]

theorem map_insert (change : alpha → beta) (dictionary : Dictionary alpha) (key : String)
    (value : alpha) :
    (dictionary.insert key value).map change =
      (dictionary.map change).insert key (change value) := by
  apply ext_get?
  intro other
  simp only [get?_map, get?_insert]
  split <;> rfl

theorem map_erase (change : alpha → beta) (dictionary : Dictionary alpha) (key : String) :
    (dictionary.erase key).map change = (dictionary.map change).erase key := by
  apply ext_get?
  intro other
  simp only [get?_map, get?_erase]
  split <;> rfl

theorem mem_keys_iff (dictionary : Dictionary alpha) (key : String) :
    key ∈ dictionary.keys ↔ dictionary.contains key = true := by
  simp only [keys, List.mem_map, Prod.exists, exists_and_right, exists_eq_right,
    contains, Option.isSome_iff_exists]
  exact exists_congr fun value => dictionary.mem_toList_iff key value

/-- Keys are listed in strictly ascending order. -/
theorem keys_ascending (dictionary : Dictionary alpha) :
    dictionary.keys.Pairwise (· < ·) := by
  simpa [keys, List.pairwise_map, Entries.Ascending] using dictionary.ascending

end Dictionary

end AssetExchange
