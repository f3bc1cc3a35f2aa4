import AssetExchange.Proofs.Dictionary.Matching
import AssetExchange.Session.Settings

/-!
# Flattened session settings

The dictionary that a selection is flattened into says everything about it, unless a
setting of the manager has the key under which the identifier is put.  Splitting a
dictionary fails exactly if something other than a string is there, and what it yields is
flattened into that dictionary again.

A setting under that key does not come back: the identifier takes its place, or it becomes
the identifier itself, or the dictionary cannot be split (`flattening_faithful`).
-/

namespace AssetExchange

/-! ## Splitting -/

namespace SessionSettings

variable {dictionary : InfoDictionary} {saved : SessionSettings}

theorem ofDictionary_of_absent (absent : dictionary.get? identifierKey = none) :
    ofDictionary dictionary = .ok ⟨none, dictionary⟩ := by
  rw [ofDictionary, absent]
  dsimp only
  rw [Dictionary.erase_of_absent absent]

theorem ofDictionary_of_text {identifier : String}
    (bound : dictionary.get? identifierKey = some (.text identifier)) :
    ofDictionary dictionary = .ok ⟨some identifier, dictionary.erase identifierKey⟩ := by
  rw [ofDictionary, bound]

theorem ofDictionary_of_not_text {value : PropertyValue}
    (bound : dictionary.get? identifierKey = some value)
    (other : ∀ text, value ≠ .text text) :
    ofDictionary dictionary =
      .error (.inputValidation ("Setting 'manager' must be a string, got " ++ value.kindName)) := by
  rw [ofDictionary, bound]
  cases value with
  | text text =>
      exact absurd rfl (other text)
  | _ =>
      rfl

/-- The dictionary has no entry for the identifier, or a string, or something else. -/
theorem ofDictionary_cases (dictionary : InfoDictionary) :
    (dictionary.get? identifierKey = none ∧ ofDictionary dictionary = .ok ⟨none, dictionary⟩) ∨
      (∃ identifier, dictionary.get? identifierKey = some (.text identifier) ∧
        ofDictionary dictionary =
          .ok ⟨some identifier, dictionary.erase identifierKey⟩) ∨
      ∃ value error, dictionary.get? identifierKey = some value ∧
        (∀ text, value ≠ .text text) ∧ ofDictionary dictionary = .error error := by
  cases bound : dictionary.get? identifierKey with
  | none =>
      exact .inl ⟨rfl, ofDictionary_of_absent bound⟩
  | some value =>
      by_cases isText : ∃ identifier, value = .text identifier
      · obtain ⟨identifier, rfl⟩ := isText
        exact .inr (.inl ⟨identifier, rfl, ofDictionary_of_text bound⟩)
      · have other : ∀ text, value ≠ .text text := fun text same => isText ⟨text, same⟩
        exact .inr (.inr ⟨value, _, rfl, other, ofDictionary_of_not_text bound other⟩)

/-! ## Flattening and splitting -/

theorem toDictionary_of_unnamed (unnamed : saved.identifier = none) :
    saved.toDictionary = saved.settings := by
  rw [toDictionary, unnamed]

theorem toDictionary_of_named {identifier : String}
    (named : saved.identifier = some identifier) :
    saved.toDictionary = saved.settings.insert identifierKey (.text identifier) := by
  rw [toDictionary, named]

/-- What is split off is flattened into the dictionary again. -/
theorem toDictionary_of_ofDictionary (split : ofDictionary dictionary = .ok saved) :
    saved.toDictionary = dictionary := by
  rcases ofDictionary_cases dictionary with
    ⟨_, unnamed⟩ | ⟨identifier, bound, named⟩ | ⟨_, error, _, _, failed⟩
  · rw [unnamed] at split
    cases split
    exact toDictionary_of_unnamed rfl
  · rw [named] at split
    cases split
    rw [toDictionary_of_named rfl, Dictionary.insert_erase bound]
  · rw [failed] at split
    cases split

theorem ofDictionary_toDictionary_of_named {identifier : String}
    (named : saved.identifier = some identifier) :
    ofDictionary saved.toDictionary =
      .ok ⟨some identifier, saved.settings.erase identifierKey⟩ := by
  rw [toDictionary_of_named named,
    ofDictionary_of_text (Dictionary.get?_insert_self _ _ _), Dictionary.erase_insert]

/-- Settings come back from their dictionary, unless one of them has the key of the
identifier. -/
theorem ofDictionary_toDictionary (unkeyed : saved.settings.get? identifierKey = none) :
    ofDictionary saved.toDictionary = .ok saved := by
  obtain ⟨identifier, settings⟩ := saved
  cases identifier with
  | none =>
      exact ofDictionary_of_absent unkeyed
  | some identifier =>
      rw [ofDictionary_toDictionary_of_named rfl, Dictionary.erase_of_absent unkeyed]

/-- No setting that is split off has the key of the identifier. -/
theorem get?_settings_of_ofDictionary (split : ofDictionary dictionary = .ok saved) :
    saved.settings.get? identifierKey = none := by
  rcases ofDictionary_cases dictionary with
    ⟨absent, unnamed⟩ | ⟨identifier, _, named⟩ | ⟨_, error, _, _, failed⟩
  · rw [unnamed] at split
    cases split
    exact absent
  · rw [named] at split
    cases split
    rw [Dictionary.get?_erase, if_pos rfl]
  · rw [failed] at split
    cases split

/-! ## Numerical comparison -/

theorem equals_self (numbers : ∀ entry ∈ saved.settings.toList, entry.2.isNaN = false) :
    saved.equals saved = true := by
  rw [equals, Bool.and_eq_true]
  constructor
  · exact beq_self_eq_true _
  · apply Dictionary.allMatch_self_iff.2
    intro entry member
    exact (PropertyValue.equals_self_iff _).2 (numbers entry member)

/-- Settings that are equal by comparison have the same keys. -/
theorem get?_eq_none_of_equals {other : SessionSettings} {key : String}
    (same : saved.equals other = true) (absent : saved.settings.get? key = none) :
    other.settings.get? key = none := by
  rw [equals, Bool.and_eq_true] at same
  have found := Dictionary.contains_of_allMatch same.2 key
  rw [Dictionary.contains, absent] at found
  exact Option.not_isSome_iff_eq_none.1 (Bool.eq_false_iff.1 found.symm)

/-! ## The laws -/

/-- What is said of splitting a dictionary. -/
structure SplittingLaw (dictionary : InfoDictionary) : Prop where
  /-- It fails exactly if the identifier is not a string. -/
  fails_iff : (∃ error, ofDictionary dictionary = .error error) ↔
    ∃ value, dictionary.get? "manager" = some value ∧ ∀ text, value ≠ .text text
  /-- Otherwise nothing is lost. -/
  flattened : ∀ settings, ofDictionary dictionary = .ok settings →
    settings.toDictionary = dictionary

/-- What is said of flattening settings and splitting them again. -/
structure FlatteningLaw (saved : SessionSettings) : Prop where
  /-- They come back exactly if none of them has the key of the identifier. -/
  comesBack_iff : ofDictionary saved.toDictionary = .ok saved ↔
    saved.settings.get? "manager" = none
  /-- This is so for numerical comparison as well, if all that should be numbers are. -/
  comesBackEqual_iff : (∀ entry ∈ saved.settings.toList, entry.2.isNaN = false) →
    ((∃ back, ofDictionary saved.toDictionary = .ok back ∧ back.equals saved = true) ↔
      saved.settings.get? "manager" = none)
  /-- An identifier replaces the setting with its key, whatever that was. -/
  replaced : ∀ identifier held, saved.identifier = some identifier →
    saved.settings.get? "manager" = some held →
      saved.toDictionary.get? "manager" = some (.text identifier) ∧
        ofDictionary saved.toDictionary =
          .ok ⟨some identifier, saved.settings.erase "manager"⟩
  /-- Without an identifier a string becomes the identifier. -/
  promoted : ∀ text, saved.identifier = none →
    saved.settings.get? "manager" = some (.text text) →
      ofDictionary saved.toDictionary = .ok ⟨some text, saved.settings.erase "manager"⟩
  /-- Without an identifier anything else is refused. -/
  refused : ∀ held, saved.identifier = none → saved.settings.get? "manager" = some held →
    (∀ text, held ≠ .text text) →
      ofDictionary saved.toDictionary =
        .error (.inputValidation
          ("Setting 'manager' must be a string, got " ++ held.kindName))

theorem splittingLaw (dictionary : InfoDictionary) : SplittingLaw dictionary where
  fails_iff := by
    rcases ofDictionary_cases dictionary with
      ⟨absent, split⟩ | ⟨identifier, bound, split⟩ | ⟨value, error, bound, other, failed⟩
    · change dictionary.get? "manager" = none at absent
      simp [split, absent]
    · change dictionary.get? "manager" = some (.text identifier) at bound
      simp [split, bound]
    · exact iff_of_true ⟨error, failed⟩ ⟨value, bound, other⟩
  flattened := fun _ => toDictionary_of_ofDictionary

theorem flatteningLaw (saved : SessionSettings) : FlatteningLaw saved where
  comesBack_iff := ⟨get?_settings_of_ofDictionary, ofDictionary_toDictionary⟩
  comesBackEqual_iff := by
    intro numbers
    constructor
    · rintro ⟨back, split, same⟩
      exact get?_eq_none_of_equals same (get?_settings_of_ofDictionary split)
    · intro unkeyed
      exact ⟨saved, ofDictionary_toDictionary unkeyed, equals_self numbers⟩
  replaced := by
    intro identifier held named _
    refine ⟨?_, ofDictionary_toDictionary_of_named named⟩
    rw [toDictionary_of_named named]
    exact Dictionary.get?_insert_self _ _ _
  promoted := by
    intro text unnamed bound
    rw [toDictionary_of_unnamed unnamed]
    exact ofDictionary_of_text bound
  refused := by
    intro held unnamed bound other
    rw [toDictionary_of_unnamed unnamed]
    exact ofDictionary_of_not_text bound other

end SessionSettings

/-- Flattening settings into a dictionary is faithful, within exact limits: every
dictionary that can be split is flattened from what it is split into, and every settings
come back unless one of them has the key of the identifier. -/
theorem flattening_faithful (dictionary : InfoDictionary) (saved : SessionSettings) :
    SessionSettings.SplittingLaw dictionary ∧ SessionSettings.FlatteningLaw saved :=
  ⟨SessionSettings.splittingLaw dictionary, SessionSettings.flatteningLaw saved⟩

-- The setting is lost without an error.
example :
    SessionSettings.ofDictionary (SessionSettings.toDictionary
        ⟨some "stock", Dictionary.empty.insert "manager" (.int 3)⟩) =
      .ok ⟨some "stock", .empty⟩ := by
  decide

end AssetExchange
