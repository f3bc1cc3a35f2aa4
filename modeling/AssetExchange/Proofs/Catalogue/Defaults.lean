import AssetExchange.Proofs.Catalogue.Publishing

/-!
# Default references

Asked for the default of a trait set, a catalogue selects the smallest reference whose data
have all of the traits, among everything that it holds at that time (`IsDefault`).  Its
entities are listed in the order of their references, so this is the first one that suits.

What is selected depends on the trait set and the entities alone.  Hence a batch of trait
sets is answered one by one, never with an error (`ReportsEach`), and asking for fewer traits
never selects a larger reference (`DefaultLaw`).
-/

namespace AssetExchange

open Catalogue

/-! ## The smallest reference -/

def TraitsData.HasAll (data : TraitsData) (traits : TraitSet) : Prop :=
  ∀ trait, traits.contains trait = true → data.hasTrait trait = true

theorem TraitsData.hasAll_iff (data : TraitsData) (traits : TraitSet) :
    data.HasAll traits ↔ traits.isSubset data.traitSet = true := by
  simp only [HasAll, NameSet.isSubset_iff, contains_traitSet]

theorem TraitsData.HasAll.mono {data : TraitsData} {narrow wide : TraitSet}
    (hasAll : data.HasAll wide) (subset : narrow.isSubset wide = true) :
    data.HasAll narrow := by
  intro trait member
  exact hasAll trait ((NameSet.isSubset_iff narrow wide).1 subset trait member)

theorem TraitsData.hasAll_empty (data : TraitsData) : data.HasAll .empty := by
  intro trait impossible
  cases impossible

/-- The smallest of the references whose data have every trait of a set, or nothing where no
data have them. -/
inductive IsDefault (held : String → Option TraitsData) (traits : TraitSet) :
    Option EntityReference → Prop
  | smallest {reference : EntityReference} {data : TraitsData}
      (stored : held reference.text = some data) (suits : data.HasAll traits)
      (least : ∀ text other, held text = some other → other.HasAll traits →
        reference.text ≤ text) :
      IsDefault held traits (some reference)
  | unsuited (rejected : ∀ text data, held text = some data → ¬data.HasAll traits) :
      IsDefault held traits none

namespace IsDefault

variable {held : String → Option TraitsData} {traits narrow wide : TraitSet}
  {answer other : Option EntityReference} {reference : EntityReference}

/-- Where fewer traits are asked for, a reference that is not larger is the smallest. -/
theorem mono (subset : narrow.isSubset wide = true)
    (isWide : IsDefault held wide (some reference)) (isNarrow : IsDefault held narrow answer) :
    ∃ smaller, answer = some smaller ∧ smaller.text ≤ reference.text := by
  cases isWide with
  | smallest stored suits _ =>
      have suitsNarrow := suits.mono subset
      cases isNarrow with
      | smallest _ _ least =>
          exact ⟨_, rfl, least _ _ stored suitsNarrow⟩
      | unsuited rejected =>
          exact absurd suitsNarrow (rejected _ _ stored)

theorem unique (isDefault : IsDefault held traits answer)
    (isOther : IsDefault held traits other) : answer = other := by
  have same : traits.isSubset traits = true :=
    (NameSet.isSubset_iff traits traits).2 fun _ member => member
  cases isDefault with
  | smallest stored suits least =>
      have isDefault := IsDefault.smallest stored suits least
      obtain ⟨smaller, rfl, below⟩ := mono same isDefault isOther
      obtain ⟨_, found, above⟩ := mono same isOther isDefault
      cases found
      have sameText := String.le_antisymm above below
      exact congrArg (fun text => some (EntityReference.mk text)) sameText
  | unsuited rejected =>
      cases isOther with
      | smallest stored suits _ =>
          exact absurd suits (rejected _ _ stored)
      | unsuited _ =>
          rfl

end IsDefault

/-- Of the entries of a dictionary that suit, the first one has the smallest key. -/
theorem Dictionary.le_of_find?_toList {alpha : Type} {dictionary : Dictionary alpha}
    {suits : String × alpha → Bool} {entry other : String × alpha}
    (found : dictionary.toList.find? suits = some entry) (member : other ∈ dictionary.toList)
    (alsoSuits : suits other = true) : entry.1 ≤ other.1 := by
  obtain ⟨_, before, after, split, unsuited⟩ := List.find?_eq_some_iff_append.1 found
  have ascending : dictionary.toList.Pairwise fun left right => left.1 < right.1 :=
    dictionary.ascending
  rw [split] at ascending member
  apply String.not_lt.1
  intro below
  have earlier := Entries.mem_before_of_ascending Prod.fst ascending member below
  have rejected := unsuited other earlier
  rw [alsoSuits] at rejected
  cases rejected

/-- A catalogue selects the smallest reference that suits. -/
theorem isDefault_defaultReference? (catalogue : Catalogue) (traits : TraitSet) :
    IsDefault catalogue.entity? traits (catalogue.defaultReference? traits) := by
  unfold defaultReference?
  cases found : catalogue.entities.toList.find? fun entry =>
      traits.isSubset entry.2.traitSet with
  | none =>
      apply IsDefault.unsuited
      intro text data stored hasAll
      have member := (catalogue.entities.mem_toList_iff text data).2 stored
      exact List.find?_eq_none.1 found _ member ((data.hasAll_iff traits).1 hasAll)
  | some entry =>
      obtain ⟨name, data⟩ := entry
      have stored := (catalogue.entities.mem_toList_iff name data).1
        (List.mem_of_find?_eq_some found)
      have suits : traits.isSubset data.traitSet = true := by
        simpa using List.find?_some found
      refine IsDefault.smallest stored ((data.hasAll_iff traits).2 suits) ?_
      intro text other otherStored otherSuits
      exact Dictionary.le_of_find?_toList found
        ((catalogue.entities.mem_toList_iff text other).2 otherStored)
        ((other.hasAll_iff traits).1 otherSuits)

/-! ## Batches without errors -/

/-- A batch returns and reports one outcome for each of its elements, in some order and
whatever the answers to errors are. -/
def ReportsEach {alpha tau : Type} (outcomes : List (ElementOutcome alpha))
    (run : BatchRun alpha (Reply tau (Outcome Unit))) : Prop :=
  ∀ answer, (run.transcript answer []).2.answer = .ok () ∧
    (run.transcript answer []).1.Perm (outcomes.zipIdx.map fun entry => ⟨entry.2, entry.1⟩)

/-- A batch that has only values to report is not stopped. -/
theorem Tells.reportsEach {alpha tau : Type} {order : CallbackOrder} {values : List alpha}
    {run : BatchRun alpha (Reply tau (Outcome Unit))}
    (tells : Tells order (values.map .ok) run) : ReportsEach (values.map .ok) run := by
  intro answer
  obtain ⟨kept, leftOut, split, ends, heard, returned⟩ := tells answer
  have complete : leftOut = [] := by
    apply ends.leftOut_eq_nil
    intro before index error after same
    have member : (⟨index, .error error⟩ : Report alpha) ∈ kept ++ leftOut := by
      simp [same]
    rw [← split, CallbackOrder.mem_arrange_iff] at member
    obtain ⟨⟨outcome, place⟩, inOutcomes, reported⟩ := List.mem_map.1 member
    have isOutcome : outcome ∈ values.map .ok := List.fst_mem_of_mem_zipIdx inOutcomes
    obtain ⟨value, _, rfl⟩ := List.mem_map.1 isOutcome
    cases reported
  rw [complete, List.append_nil] at split
  rw [heard, ← split]
  exact ⟨returned, order.arrange_perm _⟩

/-! ## The law -/

/-- What is said of a way to select a reference for every trait set, given what is held. -/
structure DefaultLaw (held : String → Option TraitsData)
    (select : TraitSet → Option EntityReference) : Prop where
  /-- The smallest reference that suits is selected, and nothing only where none suits. -/
  isDefault_iff : ∀ traits answer, IsDefault held traits answer ↔ answer = select traits
  /-- Asking for fewer traits never selects a larger reference. -/
  narrower : ∀ narrow wide reference, narrow.isSubset wide = true →
    select wide = some reference →
      ∃ smaller, select narrow = some smaller ∧ smaller.text ≤ reference.text
  /-- Asking for no traits selects the smallest reference of all. -/
  unrestricted : ∀ reference, select .empty = some reference ↔
    (held reference.text).isSome = true ∧
      ∀ text, (held text).isSome = true → reference.text ≤ text
  unrestricted_none : select .empty = none ↔ ∀ text, held text = none

/-- With the traits of no set to have, the smallest reference that suits is the smallest of
all. -/
theorem isDefault_empty_iff {held : String → Option TraitsData}
    {answer : Option EntityReference} :
    IsDefault held .empty answer ↔
      match answer with
      | some reference =>
          (held reference.text).isSome = true ∧
            ∀ text, (held text).isSome = true → reference.text ≤ text
      | none => ∀ text, held text = none := by
  constructor
  · intro isDefault
    cases isDefault with
    | smallest stored _ least =>
        refine ⟨by simp [stored], ?_⟩
        intro text present
        obtain ⟨other, otherStored⟩ := Option.isSome_iff_exists.1 present
        exact least text other otherStored other.hasAll_empty
    | unsuited rejected =>
        intro text
        rw [Option.eq_none_iff_forall_ne_some]
        intro data stored
        exact rejected text data stored data.hasAll_empty
  · intro described
    cases answer with
    | some reference =>
        obtain ⟨present, least⟩ := described
        obtain ⟨data, stored⟩ := Option.isSome_iff_exists.1 present
        refine IsDefault.smallest stored data.hasAll_empty ?_
        intro text other otherStored _
        exact least text (by simp [otherStored])
    | none =>
        apply IsDefault.unsuited
        intro text data stored
        rw [described text] at stored
        cases stored

theorem defaultLaw (catalogue : Catalogue) :
    DefaultLaw catalogue.entity? catalogue.defaultReference? := by
  have selected := isDefault_defaultReference? catalogue
  have isDefault_iff : ∀ traits answer,
      IsDefault catalogue.entity? traits answer ↔
        answer = catalogue.defaultReference? traits := by
    intro traits answer
    constructor
    · intro isDefault
      exact isDefault.unique (selected traits)
    · rintro rfl
      exact selected traits
  constructor
  case isDefault_iff =>
    exact isDefault_iff
  case narrower =>
    intro narrow wide reference subset isWide
    have ofWide := (isDefault_iff wide _).2 isWide.symm
    exact ofWide.mono subset (selected narrow)
  case unrestricted =>
    intro reference
    rw [eq_comm, ← isDefault_iff]
    exact isDefault_empty_iff
  case unrestricted_none =>
    rw [eq_comm, ← isDefault_iff]
    exact isDefault_empty_iff

/-- Unless calls fail as a whole, a catalogue that was used in any way reports for each trait
set of a batch, whatever the others are, the smallest of the references that it then holds
with all of these traits.  What it holds for a reference is what was published since, the
last data of it, or what it was set up with.  The last sentence is left out for a catalogue
that reports all elements at once, as it promises no order of them. -/
theorem defaults_smallest (manager : Manager Catalogue)
    (noFailure : manager.state.callFailure = none)
    (events : List (ManagerEvent CataloguePager (Option ApiError))) :
    let later := runEvents plugin refusing events manager
    (manager.state.order ≠ .threaded →
      ∀ text, later.state.entity? text =
        (lastPublished? (publishedIn events manager) text).or
          (manager.state.entity? text)) ∧
      ∃ select, DefaultLaw later.state.entity? select ∧
        ∀ traitSets access context,
          ReportsEach (traitSets.map fun traits => .ok (select traits))
            (Manager.defaultEntityReference plugin traitSets access context later) := by
  intro later
  constructor
  · intro _ text
    unfold entity?
    rw [entities_runEvents events manager, get?_publishAll]
  · refine ⟨later.state.defaultReference?, defaultLaw later.state, ?_⟩
    intro traitSets access context
    have served : later.state.callFailure = none :=
      (callFailure_runEvents events manager).trans noFailure
    have tells := (BatchCall.defaultEntityReference traitSets access context).tells_ask
      rfl served
    have outcomes : (BatchCall.defaultEntityReference traitSets access context).outcomes
        later.state = (traitSets.map later.state.defaultReference?).map .ok := by
      rw [List.map_map]
      rfl
    rw [outcomes] at tells
    have each := tells.reportsEach
    rw [List.map_map] at each
    exact each

/-- Asked backwards after `publishTwice`: for a trait that only the larger reference has, for
no traits and for a trait that nothing has. -/
theorem defaults_smallest_backwards :
    backwards.callFailure = none ∧
      ReportsEach [.ok (some ⟨"d"⟩), .ok (some ⟨"a"⟩), .ok none]
        (Manager.defaultEntityReference plugin
          [.ofList ["sixth"], .empty, .ofList ["tenth"]] ⟨.read, List.mem_cons_self⟩ .empty
          (runEvents plugin refusing publishTwice (.ofState backwards))) := by
  have noFailure : backwards.callFailure = none := rfl
  obtain ⟨_, select, law, each⟩ :=
    defaults_smallest (.ofState backwards) noFailure publishTwice
  have answered := fun traits =>
    (law.isDefault_iff traits _).1 (isDefault_defaultReference? _ traits)
  have reported := each [.ofList ["sixth"], .empty, .ofList ["tenth"]]
    ⟨.read, List.mem_cons_self⟩ .empty
  simp only [List.map_cons, List.map_nil, ← answered] at reported
  exact ⟨noFailure, reported⟩

end AssetExchange
