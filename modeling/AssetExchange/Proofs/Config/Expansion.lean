import AssetExchange.Proofs.Config.Saving
import AssetExchange.Proofs.Text.Replacement

/-!
# Settings with the directory put in

The placeholder for the directory is replaced in string settings, wherever it stands, and
nothing else changes (`ExpansionLaw`).  What is put in is not searched: a string is cut once,
and the stretches are joined by the directory.

For the absolute directories without a dollar sign there is nothing left to replace.  A
placeholder at a seam would have the slash of the directory in it, or begin within the
directory.
-/

namespace AssetExchange

/-- What is said of a manager's configuration before and after a directory was put in. -/
structure ManagerConfig.ExpansionLaw (directory : String) (before after : ManagerConfig) :
    Prop where
  identifier : after.identifier = before.identifier
  keys : after.settings.keys = before.settings.keys
  other : ∀ key value, before.settings.get? key = some value → value.text? = none →
    after.settings.get? key = some value
  /-- The stretches between the placeholders of a string, and there is one way to cut it, are
  joined by the directory. -/
  text : ∀ key text, before.settings.get? key = some (.text text) →
    ∃ stretches,
      (∀ others, Text.Stretches directoryPlaceholder.toList text.toList others ↔
        others = stretches) ∧
      after.settings.get? key =
        some (.text (String.ofList (directory.toList.intercalate stretches)))
  unmentioned : ∀ key text, before.settings.get? key = some (.text text) →
    ¬directoryPlaceholder.toList <:+: text.toList →
    after.settings.get? key = some (.text text)

theorem PropertyValue.mentionsDirectory_text_iff (text : String) :
    (PropertyValue.text text).MentionsDirectory ↔
      directoryPlaceholder.toList <:+: text.toList := by
  rw [← Text.occurs_iff]
  constructor
  · rintro ⟨other, same, mentioned⟩
    cases same
    exact mentioned
  · intro mentioned
    exact ⟨text, rfl, mentioned⟩

theorem directoryPlaceholder_ne_nil : directoryPlaceholder.toList ≠ [] := by
  decide

namespace ManagerConfig

variable {config : ManagerConfig} {directory : String}

theorem get?_settings_expand (directory : String) (config : ManagerConfig) (key : String) :
    (config.expand directory).settings.get? key =
      (config.settings.get? key).map (PropertyValue.expand directory) :=
  config.get?_settings_expandIn (some directory) key

theorem expansionLaw (directory : String) (config : ManagerConfig) :
    config.ExpansionLaw directory (config.expand directory) := by
  constructor
  case identifier =>
    rfl
  case keys =>
    simp [Dictionary.keys, expand, InfoDictionary.expand, Dictionary.map]
  case other =>
    intro key value held notText
    rw [get?_settings_expand, held, Option.map_some, value.expand_of_not_text directory notText]
  case text =>
    intro key text held
    have cut := Text.stretches_pieces directoryPlaceholder_ne_nil text.toList
    refine ⟨Text.pieces directoryPlaceholder.toList text.toList, ?_, ?_⟩
    · intro others
      constructor
      · exact cut.unique
      · rintro rfl
        exact cut
    · rw [get?_settings_expand, held]
      rfl
  case unmentioned =>
    intro key text held absent
    have same := PropertyValue.expandIn_of_not_mentions
      (absent ∘ (PropertyValue.mentionsDirectory_text_iff text).1) (some directory)
    rw [get?_settings_expand, held, Option.map_some]
    exact congrArg some same

/-- No string has the placeholder once an absolute directory without a dollar sign is put
in. -/
theorem not_mentions_expand (absolute : directory.toList.head? = some '/')
    (noDollar : '$' ∉ directory.toList) {key text : String}
    (held : (config.expand directory).settings.get? key = some (.text text)) :
    ¬directoryPlaceholder.toList <:+: text.toList := by
  rw [get?_settings_expand] at held
  obtain ⟨value, _, expanded⟩ := Option.map_eq_some_iff.1 held
  cases value with
  | text original =>
      obtain ⟨inner, begins⟩ : ∃ inner, directory.toList = '/' :: inner :=
        List.head?_eq_some_iff.1 absolute
      have cut := Text.stretches_pieces directoryPlaceholder_ne_nil original.toList
      have noSlash : '/' ∉ directoryPlaceholder.toList := by decide
      have lacks : '$' ∉ inner := by
        intro member
        rw [begins] at noDollar
        exact noDollar (List.mem_cons_of_mem _ member)
      have joined := Text.not_infix_intercalate noSlash lacks
        (cut.not_infix directoryPlaceholder_ne_nil)
      rw [← PropertyValue.text.inj expanded, String.toList_ofList, Text.replaceAll, begins]
      exact joined
  | _ =>
      cases expanded

/-- Putting a directory in replaces every placeholder of every string setting and nothing
else.  If the directory is absolute and has no dollar sign, then no placeholder is left, so
that putting in any directory afterwards changes nothing. -/
theorem expansion_exact (directory : String) (config : ManagerConfig) :
    config.ExpansionLaw directory (config.expand directory) ∧
      (directory.toList.head? = some '/' → '$' ∉ directory.toList →
        (∀ key text, (config.expand directory).settings.get? key = some (.text text) →
          ¬directoryPlaceholder.toList <:+: text.toList) ∧
        ∀ other, (config.expand directory).expand other = config.expand directory) := by
  refine ⟨config.expansionLaw directory, ?_⟩
  intro absolute noDollar
  have nowhere : ∀ key text,
      (config.expand directory).settings.get? key = some (.text text) →
        ¬directoryPlaceholder.toList <:+: text.toList :=
    fun _ _ held => not_mentions_expand absolute noDollar held
  have absent : ∀ entry ∈ (config.expand directory).settings.toList,
      ¬entry.2.MentionsDirectory := by
    rintro ⟨key, _⟩ member ⟨text, rfl, mentioned⟩
    have held := ((config.expand directory).settings.mem_toList_iff _ _).1 member
    exact nowhere key text held ((Text.occurs_iff _ _).1 mentioned)
  refine ⟨nowhere, ?_⟩
  intro other
  exact expandIn_of_not_mentions absent (some other)

/-- A setting in which the characters around the placeholder are a placeholder themselves, once
it is taken away. -/
def nested : ManagerConfig :=
  ⟨"studio", .ofList [("library", .text "$$\x7bconfig_dir\x7d\x7bconfig_dir\x7d")]⟩

/-- The slash of the directory keeps them apart. -/
theorem expansion_exact_nested :
    ("/srv".toList.head? = some '/' ∧ '$' ∉ "/srv".toList) ∧
      (nested.expand "/srv").settings.get? "library" =
        some (.text "$/srv\x7bconfig_dir\x7d") ∧
      ¬directoryPlaceholder.toList <:+: "$/srv\x7bconfig_dir\x7d".toList ∧
      (nested.expand "/srv").expand "/tmp" = nested.expand "/srv" := by
  have absolute : "/srv".toList.head? = some '/' := by decide
  have noDollar : '$' ∉ "/srv".toList := by decide
  obtain ⟨_, final⟩ := expansion_exact "/srv" nested
  obtain ⟨nowhere, again⟩ := final absolute noDollar
  have replaced : (nested.expand "/srv").settings.get? "library" =
      some (.text "$/srv\x7bconfig_dir\x7d") := by
    decide +kernel
  exact ⟨⟨absolute, noDollar⟩, replaced, nowhere _ _ replaced, again "/tmp"⟩

end ManagerConfig
end AssetExchange
