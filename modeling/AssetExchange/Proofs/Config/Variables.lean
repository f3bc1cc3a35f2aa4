import AssetExchange.Config.Environment
import AssetExchange.Proofs.Config.Merging
import Mathlib.Data.List.Induction

/-!
# What variables set

A variable whose name leads to a path of keys gives that path the value of its text, and the
paths below it what that value holds there (`Gives`).  Variables whose paths lie apart, none
of them above another one, do not interfere: the layer that they make holds exactly what they
give, and tables on the way to it (`valueAt?_layer_of_gives`, `gives_or_isTable`).
-/

namespace AssetExchange
namespace Environment

open Document

/-! ## Values -/

theorem ordered_bareValue (characters : List Char) : (bareValue characters).Ordered := by
  apply Ordered.other
  unfold bareValue
  split
  · rfl
  · split
    · rfl
    · split <;> rfl

/-- Every value that is read with as much fuel is in order. -/
def ReadsOrderedValues (fuel : Nat) : Prop :=
  ∀ characters value rest, readValue fuel characters = some (value, rest) → value.Ordered

/-- So is every value of the fields that are read with as much fuel. -/
def ReadsOrderedFields (fuel : Nat) : Prop :=
  ∀ characters fields rest, readFields fuel characters = some (fields, rest) →
    ∀ field ∈ fields, field.2.Ordered

theorem readsOrderedValues_succ {fuel : Nat} (readsFields : ReadsOrderedFields fuel) :
    ReadsOrderedValues (fuel + 1) := by
  intro characters value rest read
  rw [readValue] at read
  simp only [Option.bind_eq_bind, Option.bind_some, Option.pure_def, Option.bind_map,
    Function.comp_def] at read
  split at read
  · cases read
    exact .other rfl
  · cases read
    exact .other rfl
  · obtain ⟨found, _, same⟩ := Option.bind_eq_some_iff.1 read
    cases same
    exact .other rfl
  · obtain ⟨⟨found, after⟩, held, same⟩ := Option.bind_eq_some_iff.1 read
    cases same
    exact ordered_ofFields (readsFields _ _ _ held)
  · obtain ⟨found, _, same⟩ := Option.bind_eq_some_iff.1 read
    cases same
    exact .other rfl
  · cases read
    exact .other rfl
  · cases read
  · cases read
    exact ordered_bareValue _

theorem readsOrderedFields_succ {fuel : Nat} (readsValues : ReadsOrderedValues fuel)
    (readsFields : ReadsOrderedFields fuel) : ReadsOrderedFields (fuel + 1) := by
  intro characters found rest read
  by_cases closing : ∃ later, characters = '\x7d' :: later
  · obtain ⟨later, rfl⟩ := closing
    rw [readFields] at read
    · cases read
      intro field member
      cases member
    · exact Nat.succ_ne_zero fuel
  · rw [readFields] at read
    · obtain ⟨⟨key, afterKey⟩, _, read⟩ := Option.bind_eq_some_iff.1 read
      dsimp only at read
      split at read
      · obtain ⟨⟨value, afterValue⟩, readHere, read⟩ := Option.bind_eq_some_iff.1 read
        have ordered := readsValues _ _ _ readHere
        dsimp only at read
        split at read
        · obtain ⟨⟨others, last⟩, readLater, same⟩ := Option.bind_eq_some_iff.1 read
          cases same
          exact List.forall_mem_cons.2 ⟨ordered, readsFields _ _ _ readLater⟩
        · cases read
          exact List.forall_mem_singleton.2 ordered
        · cases read
      · cases read
    · intro later same
      exact closing ⟨later, same⟩

/-- Values that are read are in order; so are the fields of a table. -/
theorem readsOrdered (fuel : Nat) : ReadsOrderedValues fuel ∧ ReadsOrderedFields fuel := by
  induction fuel with
  | zero =>
      constructor
      · intro characters value rest read
        rw [readValue] at read
        cases read
      · intro characters fields rest read
        rw [readFields] at read
        cases read
  | succ fuel inductionHypothesis =>
      obtain ⟨readsValues, readsFields⟩ := inductionHypothesis
      exact ⟨readsOrderedValues_succ readsFields, readsOrderedFields_succ readsValues readsFields⟩

theorem ordered_value (source : String) : (value source).Ordered := by
  unfold value
  dsimp only
  split
  · rename_i read
    exact (readsOrdered _).1 _ _ _ read
  · exact .other rfl

/-! ## Names -/

theorem pieces_ne_nil (separator text : List Char) : Text.pieces separator text ≠ [] := by
  have extended : ∀ character pieces, Text.extendFirst character pieces ≠ [] := by
    intro character pieces
    cases pieces <;> exact List.cons_ne_nil _ _
  cases text with
  | nil =>
      rw [Text.pieces]
      exact List.cons_ne_nil _ _
  | cons character rest =>
      rw [Text.pieces]
      split
      · split
        · exact List.cons_ne_nil _ _
        · exact extended _ _
      · exact extended _ _

/-- Every path that a variable sets has a key. -/
theorem path?_ne_nil {name : String} {path : List String} (set : path? name = some path) :
    path ≠ [] := by
  unfold path? at set
  dsimp only at set
  split at set
  · cases set
  · split at set
    · cases set
    · cases set
      intro empty
      exact pieces_ne_nil _ _ (List.map_eq_nil_iff.1 empty)

/-! ## Layers of variables -/

def Apart (first second : List String) : Prop :=
  ¬ first <+: second ∧ ¬ second <+: first

def assignments (bindings : List (String × String)) : List (List String × Document) :=
  bindings.filterMap fun binding =>
    (path? binding.1).map fun path => (path, value binding.2)

def PathsApart (bindings : List (String × String)) : Prop :=
  (assignments bindings).Pairwise fun first second => Apart first.1 second.1

/-- Variables give a path a value: one of them sets the path, or one above it to a value that
holds the given one there. -/
def Gives (bindings : List (String × String)) (path : List String) (given : Document) : Prop :=
  ∃ own held rest, (own, held) ∈ assignments bindings ∧ path = own ++ rest ∧
    held.valueAt? rest = some given

/-- The document of assignments, each laid over the ones before. -/
def ofAssignments (assigned : List (List String × Document)) : Document :=
  .ofLayers (assigned.map fun assignment => .atPath assignment.2 assignment.1)

theorem layer_eq (bindings : List (String × String)) :
    layer bindings = ofAssignments (assignments bindings) := by
  rw [layer, ofAssignments, assignments, List.map_filterMap]
  congr 2
  funext binding
  rw [layerOf?, Option.map_map]
  rfl

theorem ofAssignments_concat (assigned : List (List String × Document))
    (last : List String × Document) :
    ofAssignments (assigned ++ [last]) =
      merge (ofAssignments assigned) (.atPath last.2 last.1) := by
  rw [ofAssignments, List.map_append, ofLayers, List.foldl_append]
  rfl

section Assignments

variable {assigned : List (List String × Document)} {last : List String × Document}

/-- Every assignment is to a path with a key and of a document in order. -/
def Proper (assigned : List (List String × Document)) : Prop :=
  ∀ assignment ∈ assigned, assignment.1 ≠ [] ∧ assignment.2.Ordered

theorem proper_assignments (bindings : List (String × String)) :
    Proper (assignments bindings) := by
  intro assignment member
  obtain ⟨binding, _, found⟩ := List.mem_filterMap.1 member
  obtain ⟨path, set, rfl⟩ := Option.map_eq_some_iff.1 found
  exact ⟨path?_ne_nil set, ordered_value binding.2⟩

theorem ordered_ofAssignments (proper : Proper assigned) :
    (ofAssignments assigned).Ordered := by
  induction assigned using List.reverseRecOn with
  | nil =>
      exact ordered_empty
  | append_singleton earlier last inductionHypothesis =>
      rw [ofAssignments_concat]
      apply ordered_merge
      · exact inductionHypothesis fun assignment member =>
          proper assignment (List.mem_append_left _ member)
      · exact ordered_atPath (proper last List.mem_concat_self).2 last.1

/-- Laying one more value over a document. -/
theorem valueAt?_concat (proper : Proper (assigned ++ [last])) {path : List String}
    (notAbove : last.1 <+: path → last.1 = path) :
    (ofAssignments (assigned ++ [last])).valueAt? path =
      overlay ((ofAssignments assigned).valueAt? path)
        ((atPath last.2 last.1).valueAt? path) := by
  rw [ofAssignments_concat]
  apply valueAt?_merge
  · exact ordered_ofAssignments fun assignment member =>
      proper assignment (List.mem_append_left _ member)
  · exact ordered_atPath (proper last List.mem_concat_self).2 last.1
  · exact openTo_atPath last.2 notAbove

/-- Nothing stands where no assignment leads. -/
theorem valueAt?_of_apart (proper : Proper assigned) {path : List String} (below : path ≠ [])
    (apart : ∀ assignment ∈ assigned, Apart assignment.1 path) :
    (ofAssignments assigned).valueAt? path = none := by
  induction assigned using List.reverseRecOn with
  | nil =>
      cases path with
      | nil =>
          exact absurd rfl below
      | cons key path =>
          rfl
  | append_singleton earlier last inductionHypothesis =>
      have lastApart := apart last List.mem_concat_self
      rw [valueAt?_concat proper fun above => absurd above lastApart.1,
        valueAt?_atPath_apart last.2 lastApart.1 lastApart.2]
      exact inductionHypothesis
        (fun assignment member => proper assignment (List.mem_append_left _ member))
        fun assignment member => apart assignment (List.mem_append_left _ member)

/-- What was assigned is there. -/
theorem valueAt?_own (proper : Proper assigned)
    (disjoint : assigned.Pairwise fun first second => Apart first.1 second.1)
    {own : List String} {held : Document} (member : (own, held) ∈ assigned) :
    (ofAssignments assigned).valueAt? own = some held := by
  induction assigned using List.reverseRecOn with
  | nil =>
      cases member
  | append_singleton earlier last inductionHypothesis =>
      obtain ⟨earlierDisjoint, _, apart⟩ := List.pairwise_append.1 disjoint
      have properEarlier : Proper earlier := fun assignment member =>
        proper assignment (List.mem_append_left _ member)
      rcases List.mem_append.1 member with before | here
      · have lastApart := apart _ before last (List.mem_singleton_self last)
        rw [valueAt?_concat proper fun above => absurd above lastApart.2,
          inductionHypothesis properEarlier earlierDisjoint before,
          valueAt?_atPath_apart last.2 lastApart.2 lastApart.1]
        rfl
      · obtain rfl := List.mem_singleton.1 here
        have nothing : (ofAssignments earlier).valueAt? own = none :=
          valueAt?_of_apart properEarlier (proper _ List.mem_concat_self).1
            fun assignment member => apart assignment member _ (List.mem_singleton_self _)
        have single := valueAt?_atPath_append held own []
        rw [List.append_nil] at single
        rw [valueAt?_concat proper fun _ => rfl, nothing, single]
        rfl

/-- On the way to what was assigned there are tables. -/
theorem isTable_before (proper : Proper assigned)
    (disjoint : assigned.Pairwise fun first second => Apart first.1 second.1)
    {own path : List String} {held : Document} (member : (own, held) ∈ assigned)
    (above : path <+: own) (different : path ≠ own) :
    ∃ value, (ofAssignments assigned).valueAt? path = some value ∧ value.isTable = true := by
  induction assigned using List.reverseRecOn with
  | nil =>
      cases member
  | append_singleton earlier last inductionHypothesis =>
      obtain ⟨earlierDisjoint, _, apart⟩ := List.pairwise_append.1 disjoint
      have properEarlier : Proper earlier := fun assignment member =>
        proper assignment (List.mem_append_left _ member)
      have notBelow : ¬ last.1 <+: path := by
        intro below
        rcases List.mem_append.1 member with before | here
        · exact (apart _ before last (List.mem_singleton_self last)).2 (below.trans above)
        · obtain rfl := List.mem_singleton.1 here
          exact different (above.eq_of_length_le below.length_le)
      rw [valueAt?_concat proper fun below => absurd below notBelow]
      -- The last assignment leads through the path, or it is apart from it and changes nothing.
      by_cases lastAbove : path <+: last.1
      · obtain ⟨more, same⟩ := lastAbove
        have someMore : more ≠ [] := by
          rintro rfl
          rw [List.append_nil] at same
          exact notBelow (same ▸ List.prefix_rfl)
        rw [← same, valueAt?_atPath_before]
        exact isTable_overlay _ (isTable_atPath _ someMore)
      · rw [valueAt?_atPath_apart last.2 notBelow lastAbove]
        rcases List.mem_append.1 member with before | here
        · exact inductionHypothesis properEarlier earlierDisjoint before
        · obtain rfl := List.mem_singleton.1 here
          exact absurd above lastAbove

end Assignments

section Bindings

variable {bindings : List (String × String)} {path : List String} {given : Document}

theorem ordered_layer (bindings : List (String × String)) : (layer bindings).Ordered := by
  rw [layer_eq]
  exact ordered_ofAssignments (proper_assignments bindings)

/-- What variables give a path stands there in their layer. -/
theorem valueAt?_layer_of_gives (disjoint : PathsApart bindings)
    (gives : Gives bindings path given) : (layer bindings).valueAt? path = some given := by
  obtain ⟨own, held, rest, member, rfl, found⟩ := gives
  rw [layer_eq, valueAt?_append, valueAt?_own (proper_assignments bindings) disjoint member]
  exact found

/-- Their layer holds nothing else but tables on the way to what they give. -/
theorem gives_or_isTable (disjoint : PathsApart bindings) (below : path ≠ [])
    (held : (layer bindings).valueAt? path = some given) :
    Gives bindings path given ∨ given.isTable = true := by
  have proper := proper_assignments bindings
  rw [layer_eq] at held
  by_cases under : ∃ assignment ∈ assignments bindings, assignment.1 <+: path
  · obtain ⟨⟨own, value⟩, member, rest, rfl⟩ := under
    rw [valueAt?_append, valueAt?_own proper disjoint member] at held
    exact .inl ⟨own, value, rest, member, rfl, held⟩
  · by_cases within : ∃ assignment ∈ assignments bindings, path <+: assignment.1
    · obtain ⟨⟨own, value⟩, member, above⟩ := within
      have different : path ≠ own := by
        rintro rfl
        exact under ⟨_, member, List.prefix_rfl⟩
      obtain ⟨table, found, isTable⟩ := isTable_before proper disjoint member above different
      rw [found] at held
      cases held
      exact .inr isTable
    · rw [valueAt?_of_apart proper below fun assignment member =>
        ⟨fun above => under ⟨assignment, member, above⟩,
          fun above => within ⟨assignment, member, above⟩⟩] at held
      cases held

/-- A path is known to the layer exactly if a variable sets a path that leads on from it, or
if variables give it a value. -/
theorem valueAt?_layer_eq_none_iff (disjoint : PathsApart bindings) (below : path ≠ []) :
    (layer bindings).valueAt? path = none ↔
      (∀ given, ¬ Gives bindings path given) ∧
        ∀ assignment ∈ assignments bindings, ¬ path <+: assignment.1 := by
  have proper := proper_assignments bindings
  constructor
  · intro nothing
    constructor
    · intro given gives
      rw [valueAt?_layer_of_gives disjoint gives] at nothing
      cases nothing
    · rintro ⟨own, value⟩ member above
      rw [layer_eq] at nothing
      by_cases same : path = own
      · subst same
        rw [valueAt?_own proper disjoint member] at nothing
        cases nothing
      · obtain ⟨table, found, _⟩ := isTable_before proper disjoint member above same
        rw [nothing] at found
        cases found
  · rintro ⟨ungiven, unmentioned⟩
    by_cases under : ∃ assignment ∈ assignments bindings, assignment.1 <+: path
    · obtain ⟨⟨own, value⟩, member, rest, rfl⟩ := under
      cases found : (layer bindings).valueAt? (own ++ rest) with
      | none =>
          rfl
      | some given =>
          rw [layer_eq, valueAt?_append, valueAt?_own proper disjoint member] at found
          exact absurd ⟨own, value, rest, member, rfl, found⟩ (ungiven given)
    · rw [layer_eq]
      exact valueAt?_of_apart proper below fun assignment member =>
        ⟨fun above => under ⟨assignment, member, above⟩, unmentioned assignment member⟩

end Bindings

end Environment
end AssetExchange
