import AssetExchange.Proofs.Config.Acceptance
import AssetExchange.Proofs.Config.FileText
import AssetExchange.Proofs.FileTree.Saving

/-!
# A saved configuration loads back

What is loaded from a file that a configuration was saved to is that configuration, accepted
or refused for what it is (`loadFrom_of_saved`): the file has the document of the configuration
(`parse_toToml`), the defaults below it are covered by it (`merge_default`), and a configuration
is what is read from its own document (`extract_toDocument`).
-/

namespace AssetExchange

/-! ## Placeholders -/

theorem pieces_of_not_occurs {part : List Char} {text : List Char}
    (absent : Text.occurs part text = false) : Text.pieces part text = [text] := by
  induction text with
  | nil =>
      rw [Text.pieces]
  | cons character rest inductionHypothesis =>
      rw [Text.occurs, Bool.or_eq_false_iff] at absent
      obtain ⟨notHere, later⟩ := absent
      have notPrefix : Text.afterPrefix? part (character :: rest) = none :=
        Option.not_isSome_iff_eq_none.1 (Bool.eq_false_iff.1 notHere)
      rw [Text.pieces, notPrefix, inductionHypothesis later]
      rfl

def PropertyValue.MentionsDirectory (value : PropertyValue) : Prop :=
  ∃ text, value = .text text ∧ mentionsDirectory text = true

/-- Two values that are the same but for a string in which the placeholder stood. -/
def PropertyValue.SameButMention (before after : PropertyValue) : Prop :=
  after = before ∨ before.MentionsDirectory ∧ ∃ other, after = .text other

theorem PropertyValue.expandIn_of_not_mentions {value : PropertyValue}
    (absent : ¬value.MentionsDirectory) (directory : Option String) :
    value.expandIn directory = value := by
  cases directory with
  | none =>
      rfl
  | some directory =>
      cases value with
      | text text =>
          have notHere : mentionsDirectory text = false :=
            Bool.eq_false_iff.2 fun mentioned => absent ⟨text, rfl, mentioned⟩
          have whole : Text.replaceAll directoryPlaceholder.toList directory.toList text.toList =
              text.toList := by
            rw [Text.replaceAll, pieces_of_not_occurs notHere]
            simp [List.intercalate]
          change PropertyValue.text _ = _
          rw [whole, String.ofList_toList]
      | _ =>
          rfl

theorem PropertyValue.sameButMention_expandIn (directory : Option String)
    (value : PropertyValue) : value.SameButMention (value.expandIn directory) := by
  by_cases mentioned : value.MentionsDirectory
  · obtain ⟨text, rfl, here⟩ := mentioned
    cases directory with
    | none =>
        exact .inl rfl
    | some directory =>
        exact .inr ⟨⟨text, rfl, here⟩, _, rfl⟩
  · exact .inl (expandIn_of_not_mentions mentioned directory)

/-- Two managers' configurations that are the same but for strings in which the placeholder
stood. -/
structure ManagerConfig.SameButMentions (before after : ManagerConfig) : Prop where
  identifier : after.identifier = before.identifier
  setting : ∀ key, Option.Rel PropertyValue.SameButMention (before.settings.get? key)
    (after.settings.get? key)

/-- Two configurations that are the same but for strings in which the placeholder stood. -/
structure AppConfig.SameButMentions (before after : AppConfig) : Prop where
  logging : after.logging = before.logging
  manager : Option.Rel ManagerConfig.SameButMentions before.manager after.manager

theorem AppConfig.sameButMentions_expand (directory : Option String) (config : AppConfig) :
    config.SameButMentions (config.expand directory) := by
  constructor
  case logging =>
    exact logging_expand directory config
  case manager =>
    rw [manager_expand]
    cases config.manager with
    | none =>
        exact .none
    | some manager =>
        refine .some ⟨manager.identifier_expandIn directory, fun key => ?_⟩
        rw [manager.get?_settings_expandIn directory key]
        cases manager.settings.get? key with
        | none =>
            exact .none
        | some value =>
            exact .some (value.sameButMention_expandIn directory)

def AppConfig.MentionsDirectory (config : AppConfig) : Prop :=
  ∃ manager, config.manager = some manager ∧
    ∃ entry ∈ manager.settings.toList, entry.2.MentionsDirectory

theorem ManagerConfig.expandIn_of_not_mentions {config : ManagerConfig}
    (absent : ∀ entry ∈ config.settings.toList, ¬entry.2.MentionsDirectory)
    (directory : Option String) : config.expandIn directory = config := by
  have identifier := config.identifier_expandIn directory
  have settings : (config.expandIn directory).settings = config.settings := by
    apply Dictionary.ext_get?
    intro key
    rw [config.get?_settings_expandIn directory key]
    cases held : config.settings.get? key with
    | none =>
        rfl
    | some value =>
        have member := (config.settings.mem_toList_iff key value).2 held
        exact congrArg some
          (PropertyValue.expandIn_of_not_mentions (absent (key, value) member) directory)
  generalize config.expandIn directory = expanded at identifier settings
  cases config
  cases expanded
  cases identifier
  cases settings
  rfl

theorem AppConfig.expand_of_not_mentions {config : AppConfig}
    (absent : ¬config.MentionsDirectory) (directory : Option String) :
    config.expand directory = config := by
  have logging := logging_expand directory config
  have manager : (config.expand directory).manager = config.manager := by
    rw [manager_expand]
    cases held : config.manager with
    | none =>
        rfl
    | some manager =>
        refine congrArg some (ManagerConfig.expandIn_of_not_mentions ?_ directory)
        intro entry member mentioned
        exact absent ⟨manager, held, entry, member, mentioned⟩
  generalize config.expand directory = expanded at logging manager
  cases config
  cases expanded
  cases logging
  cases manager
  rfl

/-! ## Documents -/

theorem PropertyValue.extract_toDocument (value : PropertyValue) :
    PropertyValue.extract value.toDocument = .ok value := by
  cases value with
  | int value =>
      change Except.ok (PropertyValue.ofInteger value.toInt) = _
      rw [PropertyValue.ofInteger, if_pos (isSignedWord_toInt value), Int64.ofInt_toInt]
  | _ =>
      rfl

theorem below_of_ok {alpha : Type} {extract : Extractor alpha} {part : Document} {value : alpha}
    (key : String) (read : extract part = .ok value) :
    Extractor.below key extract part = .ok value := by
  unfold Extractor.below
  rw [read]

theorem entries_entryDocuments (entries : List (String × PropertyValue)) :
    Extractor.entries PropertyValue.extract (entryDocuments entries) = .ok entries := by
  induction entries with
  | nil =>
      rfl
  | cons entry entries inductionHypothesis =>
      obtain ⟨key, value⟩ := entry
      change (Extractor.below key PropertyValue.extract value.toDocument >>= fun found => _) = _
      rw [below_of_ok key value.extract_toDocument]
      change (Extractor.entries PropertyValue.extract (entryDocuments entries) >>=
        fun found => _) = _
      rw [inductionHypothesis]
      rfl

theorem InfoDictionary.extract_toDocument (settings : InfoDictionary) :
    InfoDictionary.extract (.table (entryDocuments settings.toList)) = .ok settings := by
  unfold InfoDictionary.extract
  dsimp only
  rw [entries_entryDocuments]
  refine congrArg Except.ok ?_
  obtain ⟨entries, ascending⟩ := settings
  have same : Entries.ofList entries = entries := Entries.ofList_of_ascending ascending
  unfold Dictionary.ofList Dictionary.toList
  congr

theorem field?_of_get? {alpha : Type} (extract : Extractor alpha) {key : String}
    {fields : List (String × Document)} {part : Document} {value : alpha}
    (held : Entries.get? key fields = some part) (read : extract part = .ok value) :
    Extractor.field? key extract fields = .ok (some value) := by
  unfold Extractor.field?
  rw [held]
  dsimp only
  rw [below_of_ok key read]
  rfl

theorem LoggingConfig.extract_toDocument (config : LoggingConfig) :
    LoggingConfig.extract config.toDocument = .ok config := by
  have readFormat : LogFormat.extract (.text config.format.name) = .ok config.format := by
    unfold LogFormat.extract LogFormat.extract.named
    dsimp only
    rw [show Enumerated.named? LogFormat config.format.name = some config.format from
      Enumerated.named?_name config.format]
  rw [LoggingConfig.toDocument_eq, LoggingConfig.extract,
    field?_of_get? LogFormat.extract rfl readFormat,
    field?_of_get? Extractor.text rfl rfl]
  rfl

theorem ManagerConfig.extract_toDocument (config : ManagerConfig) :
    ManagerConfig.extract config.toDocument = .ok config := by
  rw [toDocument_manager, ManagerConfig.extract, field?_of_get? Extractor.text rfl rfl,
    field?_of_get? InfoDictionary.extract rfl (InfoDictionary.extract_toDocument config.settings)]
  rfl

/-- A configuration is what is read from its document. -/
theorem AppConfig.extract_toDocument (config : AppConfig) :
    AppConfig.extract config.toDocument = .ok config := by
  have loggingRead := config.logging.extract_toDocument
  obtain ⟨manager, logging⟩ := config
  cases manager with
  | none =>
      rw [AppConfig.toDocument_of_none rfl, AppConfig.extract,
        field?_of_get? LoggingConfig.extract rfl loggingRead]
      rfl
  | some manager =>
      rw [AppConfig.toDocument_of_some rfl, AppConfig.extract,
        field?_of_get? LoggingConfig.extract rfl loggingRead,
        field?_of_get? ManagerConfig.extract rfl manager.extract_toDocument]
      rfl

/-! ## Layers -/

/-- The document of a configuration covers the defaults. -/
theorem merge_default (config : AppConfig) :
    AppConfig.default.toDocument.merge config.toDocument = config.toDocument := by
  have default : AppConfig.default.toDocument =
      .table [("logging", .table [("format", .text "pretty"), ("level", .text "info")])] := rfl
  rw [default]
  -- The defaults have just the section that every configuration has in full.
  cases held : config.manager with
  | none =>
      rw [AppConfig.toDocument_of_none held, LoggingConfig.toDocument_eq]
      simp +decide only [Document.merge, Document.mergeFields, Entries.insert, Entries.get?,
        ↓reduceIte]
  | some manager =>
      rw [AppConfig.toDocument_of_some held, LoggingConfig.toDocument_eq]
      simp +decide only [Document.merge, Document.mergeFields, Entries.insert, Entries.get?,
        ↓reduceIte]

theorem layer_of_unset {bindings : List (String × String)}
    (unset : ∀ binding ∈ bindings, Environment.path? binding.1 = none) :
    Environment.layer bindings = .empty := by
  have none : bindings.filterMap Environment.layerOf? = [] := by
    rw [List.filterMap_eq_nil_iff]
    intro binding member
    rw [Environment.layerOf?, unset binding member]
    rfl
  rw [Environment.layer, none]
  rfl

/-- Without variables, a configuration is what is read from the layer of its document. -/
theorem ofLayers_toDocument {bindings : List (String × String)}
    (unset : ∀ binding ∈ bindings, Environment.path? binding.1 = none) (config : AppConfig) :
    AppConfig.ofLayers config.toDocument bindings = .ok config := by
  have covered : Document.ofLayers [AppConfig.default.toDocument, config.toDocument, .empty] =
      (AppConfig.default.toDocument.merge config.toDocument).merge .empty := rfl
  have whole : config.toDocument.merge .empty = config.toDocument := by
    rw [AppConfig.toDocument, Document.ofFields, Document.empty, Document.merge,
      Document.mergeFields_nil]
  rw [AppConfig.ofLayers, layer_of_unset unset, covered, merge_default, whole,
    AppConfig.extract_toDocument]

/-! ## Saving and loading -/

section Saving

variable {surroundings after : Surroundings} {path : String} {config : AppConfig}

/-- There are surroundings in which a file can be written to the end of a path. -/
def Surroundings.Writable (surroundings : Surroundings) (path : String) : Prop :=
  ∃ content tree, surroundings.tree.save surroundings.working
    (.ofText surroundings.tree.top path) content = .ok tree

def Surroundings.Unset (surroundings : Surroundings) : Prop :=
  ∀ binding ∈ surroundings.environment.toList, Environment.path? binding.1 = none

/-- What is loaded from where a configuration was saved is that configuration, if it is
acceptable, with its placeholders replaced. -/
theorem loadFrom_of_saved (unset : surroundings.Unset) (hasNumbers : config.HasNumbers)
    (saved : config.save surroundings path = .ok after) :
    ∃ directory, AppConfig.loadFrom after path = config.accept directory := by
  unfold AppConfig.save at saved
  dsimp only at saved
  split at saved
  · rename_i tree written
    cases saved
    obtain ⟨top, names, located, found⟩ := FileTree.found_of_save written
    rw [← top] at located found
    refine ⟨tree.holderText? (.inside names), ?_⟩
    have file : AppConfig.fileLayer (some config.toToml) = .ok config.toDocument := by
      unfold AppConfig.fileLayer
      dsimp only
      rw [parse_toToml hasNumbers]
    unfold AppConfig.loadFrom
    dsimp only
    rw [located]
    dsimp only
    rw [found, file]
    change AppConfig.resolve config.toDocument surroundings.environment.toList _ = _
    unfold AppConfig.resolve
    rw [ofLayers_toDocument unset]
    rfl
  · cases saved

/-- What a configuration and what is loaded from its file have to do with one another. -/
structure LoadsBack (config : AppConfig) (loaded : Except ConfigError AppConfig) : Prop where
  /-- An acceptable configuration without placeholders is loaded as it is. -/
  same : config.validate = .ok () → ¬config.MentionsDirectory → loaded = .ok config
  /-- Just the acceptable configurations are loaded. -/
  accepted : (∃ result, loaded = .ok result) ↔ config.validate = .ok ()
  /-- Nothing but strings with the placeholder is changed. -/
  differs : ∀ result, loaded = .ok result → config.SameButMentions result

theorem loadsBack_accept (config : AppConfig) (directory : Option String) :
    LoadsBack config (config.accept directory) := by
  constructor
  case same =>
    intro valid absent
    rw [AppConfig.accept_of_valid valid, AppConfig.expand_of_not_mentions absent]
  case accepted =>
    constructor
    · rintro ⟨result, accepted⟩
      exact (AppConfig.accept_eq_ok accepted).1
    · intro valid
      exact ⟨_, AppConfig.accept_of_valid valid directory⟩
  case differs =>
    intro result accepted
    rw [(AppConfig.accept_eq_ok accepted).2]
    exact AppConfig.sameButMentions_expand directory config

/-- A configuration whose settings are numbers as far as they are floating-point ones can be
saved wherever a file can be written, and loads back from there without variables: unchanged
if it is acceptable and has no placeholders. -/
theorem saved_loads_back (writable : surroundings.Writable path) (unset : surroundings.Unset)
    (hasNumbers : config.HasNumbers) :
    ∃ after, config.save surroundings path = .ok after ∧
      LoadsBack config (AppConfig.loadFrom after path) := by
  obtain ⟨content, tree, written⟩ := writable
  obtain ⟨tree, written⟩ := FileTree.save_of_save written config.toToml
  have saved : config.save surroundings path = .ok { surroundings with tree } := by
    unfold AppConfig.save
    dsimp only
    rw [written]
  refine ⟨_, saved, ?_⟩
  obtain ⟨directory, loaded⟩ := loadFrom_of_saved unset hasNumbers saved
  rw [loaded]
  exact loadsBack_accept config directory

end Saving

/-! ## A first configuration -/

def emptySurroundings : Surroundings :=
  ⟨.empty "/srv", [], .ofList [("ASSETIO", "1"), ("HOME", "/srv/artist")]⟩

/-- Settings of every kind, under keys of every kind, in the order of their keys. -/
def savedSettings : List (String × PropertyValue) :=
  [("", .text "say \"cheese\"\n"), ("cache", .bool true), ("limit", .float ⟨0xFFF0000000000000⟩),
    ("max depth", .int (-9223372036854775808)), ("scale.x", .float ⟨0x3FB999999999999A⟩)]

def savedConfig : AppConfig :=
  ⟨some ⟨"org.studio.stock", .ofList savedSettings⟩, ⟨"debug", .json⟩⟩

theorem writable_empty : emptySurroundings.Writable "rigging/assetio.toml" := by
  refine ⟨"", ⟨"/srv", [(["rigging", "assetio.toml"], .file ""), (["rigging"], .directory)]⟩, ?_⟩
  decide +kernel

theorem unset_empty : emptySurroundings.Unset := by
  intro binding member
  have bindings : emptySurroundings.environment.toList =
      [("ASSETIO", "1"), ("HOME", "/srv/artist")] := by
    decide +kernel
  rw [bindings] at member
  simp only [List.mem_cons, List.not_mem_nil, or_false] at member
  rcases member with rfl | rfl
  · decide +kernel
  · decide +kernel

theorem settings_saved : (Dictionary.ofList savedSettings).toList = savedSettings := by
  decide +kernel

theorem hasNumbers_saved : savedConfig.HasNumbers := by
  intro manager same entry member
  cases same
  change entry ∈ (Dictionary.ofList savedSettings).toList at member
  rw [settings_saved] at member
  have all : ∀ entry ∈ savedSettings, entry.2.isNaN = false := by
    decide
  exact all entry member

theorem valid_saved : savedConfig.validate = .ok () := by
  decide +kernel

theorem not_mentions_saved : ¬savedConfig.MentionsDirectory := by
  rintro ⟨manager, same, entry, member, text, isText, mentioned⟩
  cases same
  change entry ∈ (Dictionary.ofList savedSettings).toList at member
  rw [settings_saved] at member
  simp only [savedSettings, List.mem_cons, List.not_mem_nil, or_false] at member
  rcases member with rfl | rfl | rfl | rfl | rfl
  case inl =>
    cases isText
    revert mentioned
    decide
  all_goals cases isText

theorem saved_loads_back_empty :
    emptySurroundings.Writable "rigging/assetio.toml" ∧ emptySurroundings.Unset ∧
      savedConfig.HasNumbers ∧ ∃ after,
        savedConfig.save emptySurroundings "rigging/assetio.toml" = .ok after ∧
          AppConfig.loadFrom after "rigging/assetio.toml" = .ok savedConfig := by
  obtain ⟨after, saved, loadsBack⟩ :=
    saved_loads_back writable_empty unset_empty hasNumbers_saved
  exact ⟨writable_empty, unset_empty, hasNumbers_saved, after, saved,
    loadsBack.same valid_saved not_mentions_saved⟩

end AssetExchange
