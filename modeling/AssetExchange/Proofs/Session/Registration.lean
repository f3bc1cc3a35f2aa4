import AssetExchange.Proofs.Session.Moves
import Mathlib.Data.List.Induction

/-!
# Registries and their histories

A registry is what was registered, one after the other.  Everything it answers comes from
`get?_makers_ofList`: for an identifier it holds the constructor that was registered last.
So histories with the same registrations for each identifier make the same registry
(`ofList_congr`), and the identifiers are those that occur in the history
(`mem_identifiers_ofList_iff`).
-/

namespace AssetExchange
namespace Registry

variable {alpha sigma delta : Type}

def registeredFor (history : List (String × alpha)) (identifier : String) : List alpha :=
  (history.filter fun entry => entry.1 = identifier).map Prod.snd

theorem registeredFor_concat (history : List (String × alpha)) (last : String × alpha)
    (identifier : String) :
    registeredFor (history ++ [last]) identifier =
      registeredFor history identifier ++ if last.1 = identifier then [last.2] else [] := by
  unfold registeredFor
  rw [List.filter_append, List.map_append]
  by_cases same : last.1 = identifier
  · simp [same]
  · simp [same]

theorem registeredFor_eq_nil_iff (history : List (String × alpha)) (identifier : String) :
    registeredFor history identifier = [] ↔ identifier ∉ history.map Prod.fst := by
  rw [registeredFor, List.map_eq_nil_iff, List.filter_eq_nil_iff, List.mem_map]
  constructor
  · rintro none ⟨entry, member, same⟩
    exact none entry member (decide_eq_true same)
  · intro absent entry member same
    exact absent ⟨entry, member, of_decide_eq_true same⟩

theorem ofList_concat (history : List (String × alpha)) (last : String × alpha) :
    ofList (history ++ [last]) = (ofList history).register last.1 last.2 :=
  List.foldl_append

/-- A registry holds for each identifier what was registered last. -/
theorem get?_makers_ofList (history : List (String × alpha)) (identifier : String) :
    (ofList history).makers.get? identifier = (registeredFor history identifier).getLast? := by
  induction history using List.reverseRecOn with
  | nil =>
      rfl
  | append_singleton history last inductionHypothesis =>
      rw [ofList_concat, registeredFor_concat, register, Dictionary.get?_insert]
      by_cases same : last.1 = identifier
      · rw [if_pos same, if_pos same, List.getLast?_concat]
      · rw [if_neg same, if_neg same, List.append_nil]
        exact inductionHypothesis

/-- Only the order among the registrations for one identifier counts. -/
theorem ofList_congr {history other : List (String × alpha)}
    (same : ∀ identifier, registeredFor other identifier = registeredFor history identifier) :
    ofList other = ofList history := by
  have makers : (ofList other).makers = (ofList history).makers := by
    apply Dictionary.ext_get?
    intro identifier
    rw [get?_makers_ofList, get?_makers_ofList, same]
  exact congrArg Registry.mk makers

theorem isRegistered_ofList_iff (history : List (String × alpha)) (identifier : String) :
    (ofList history).isRegistered identifier = true ↔
      identifier ∈ history.map Prod.fst := by
  have found : (ofList history).isRegistered identifier =
      (registeredFor history identifier).getLast?.isSome :=
    congrArg Option.isSome (get?_makers_ofList history identifier)
  rw [found, List.getLast?_isSome, Ne, registeredFor_eq_nil_iff, not_not]

theorem isRegistered_iff_mem_identifiers (registry : Registry alpha) (identifier : String) :
    registry.isRegistered identifier = true ↔ identifier ∈ registry.identifiers :=
  (registry.makers.mem_keys_iff identifier).symm

theorem instantiate_eq_ok_iff (registry : Registry alpha) (identifier : String)
    (start : alpha) :
    registry.instantiate identifier = .ok start ↔
      registry.makers.get? identifier = some start := by
  unfold instantiate
  cases registry.makers.get? identifier with
  | none =>
      simp
  | some held =>
      simp

/-- Everything a registry answers after registrations.  A constructor is run on an occasion,
which stands for all that it may depend on, and what it returns stands for all that it may
do; so the equation for `instantiate` also says that no other constructor is run. -/
structure Answers (history : List (String × (delta → sigma))) : Prop where
  ascending : (ofList history).identifiers.Pairwise (· < ·)
  listed : ∀ identifier,
    identifier ∈ (ofList history).identifiers ↔ identifier ∈ history.map Prod.fst
  size : (ofList history).size = (ofList history).identifiers.length
  isEmpty : (ofList history).isEmpty = true ↔ (ofList history).identifiers = []
  isRegistered : ∀ identifier,
    (ofList history).isRegistered identifier = true ↔
      identifier ∈ (ofList history).identifiers
  /-- The registry's own answer is the one that any factory gives by looking through its
  identifiers. -/
  lookedThrough : ∀ identifier,
    (ofList history).toFactory.isRegistered identifier =
      (ofList history).toFactory.identifiers.any (· == identifier)
  /-- What is made, if anything, is made by the constructor that was registered last. -/
  instantiate : ∀ identifier occasion made,
    ((ofList history).on occasion).instantiate identifier = .ok made ↔
      ∃ constructor, (registeredFor history identifier).getLast? = some constructor ∧
        constructor occasion = made
  instantiates : ∀ identifier occasion,
    (∃ made, ((ofList history).on occasion).instantiate identifier = .ok made) ↔
      (ofList history).isRegistered identifier = true
  /-- The order of registrations for different identifiers has no effect. -/
  reordered : ∀ other : List (String × (delta → sigma)),
    (∀ identifier, registeredFor other identifier = registeredFor history identifier) →
      ofList other = ofList history

theorem answers_ofList (history : List (String × (delta → sigma))) : Answers history := by
  have listed : ∀ identifier, (ofList history).isRegistered identifier = true ↔
      identifier ∈ (ofList history).identifiers :=
    isRegistered_iff_mem_identifiers (ofList history)
  have made : ∀ identifier occasion (start : sigma),
      ((ofList history).on occasion).instantiate identifier = .ok start ↔
        ∃ constructor, (registeredFor history identifier).getLast? = some constructor ∧
          constructor occasion = start := by
    intro identifier occasion start
    rw [instantiate_eq_ok_iff, on, Dictionary.get?_map, get?_makers_ofList,
      Option.map_eq_some_iff]
  constructor
  case ascending =>
    exact (ofList history).makers.keys_ascending
  case listed =>
    intro identifier
    exact (listed identifier).symm.trans (isRegistered_ofList_iff history identifier)
  case size =>
    exact (List.length_map Prod.fst).symm
  case isEmpty =>
    exact List.isEmpty_iff.trans List.map_eq_nil_iff.symm
  case isRegistered =>
    exact listed
  case lookedThrough =>
    intro identifier
    rw [Bool.eq_iff_iff, List.any_beq', List.contains_iff_mem]
    exact listed identifier
  case instantiate =>
    exact made
  case instantiates =>
    intro identifier occasion
    rw [isRegistered_iff]
    constructor
    · rintro ⟨start, instantiated⟩
      obtain ⟨constructor, last, _⟩ := (made identifier occasion start).1 instantiated
      exact ⟨constructor, (get?_makers_ofList history identifier).trans last⟩
    · rintro ⟨constructor, held⟩
      exact ⟨constructor occasion, instantiate_on held occasion⟩
  case reordered =>
    intro other same
    exact ofList_congr same

/-- A registration takes the place of an earlier one and is listed once. -/
example : (ofList [("b", 1), ("a", 2), ("b", 3)]).identifiers = ["a", "b"] ∧
    (ofList [("b", 1), ("a", 2), ("b", 3)]).makers.get? "b" = some 3 := by
  decide

end Registry
end AssetExchange
