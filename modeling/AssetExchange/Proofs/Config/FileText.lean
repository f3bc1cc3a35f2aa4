import AssetExchange.Proofs.Toml.Lines
import AssetExchange.Proofs.Toml.Tables

/-!
# The text of a configuration file

The text in which a configuration is saved describes the document of that configuration
(`parse_toToml`), unless a setting is a pattern that stands for no number.
-/

namespace AssetExchange

open Toml

def AppConfig.HasNumbers (config : AppConfig) : Prop :=
  ∀ manager, config.manager = some manager → ∀ entry ∈ manager.settings.toList,
    entry.2.isNaN = false

/-! ## Sections -/

def entryDocuments (entries : List (String × PropertyValue)) : List (String × Document) :=
  entries.map fun entry => (entry.1, entry.2.toDocument)

theorem readsAs_section {header : String} {path : KeyPath} (same : header.toList = dottedText path)
    (bareParents : ∀ key ∈ path.parents, IsBare key) (bare : IsBare path.last)
    (enough : path.parents.length < nestingLimit) (entries : List (String × PropertyValue))
    (areNumbers : ∀ entry ∈ entries, entry.2.isNaN = false) :
    ReadsAs (renderSection header
        (entries.map fun entry => renderEntry entry.1 entry.2)).toList
      (simpleStatements path (entryDocuments entries)) := by
  have read := readsAs_renderSection same bareParents bare enough areNumbers
  rw [simpleStatements, entryDocuments, List.map_map]
  exact read

def loggingEntries (config : LoggingConfig) : List (String × PropertyValue) :=
  [("level", .text config.level), ("format", .text config.format.name)]

def managerEntries (config : ManagerConfig) : List (String × PropertyValue) :=
  [("identifier", .text config.identifier)]

theorem isBare_manager : IsBare "manager" := by
  constructor
  · decide
  · rfl

theorem isBare_settings : IsBare "settings" := by
  constructor
  · decide
  · rfl

theorem isBare_logging : IsBare "logging" := by
  constructor
  · decide
  · rfl

theorem readsAs_logging (config : LoggingConfig) :
    ReadsAs config.toTomlSection.toList
      (simpleStatements ⟨[], "logging"⟩ (entryDocuments (loggingEntries config))) := by
  refine readsAs_section rfl (fun _ member => absurd member List.not_mem_nil) isBare_logging
    (by decide) (loggingEntries config) ?_
  intro entry member
  rcases List.mem_cons.1 member with rfl | last
  · rfl
  · rw [List.mem_singleton.1 last]
    rfl

theorem readsAs_manager (config : ManagerConfig) :
    ReadsAs (renderSection "manager" [renderEntry "identifier" (.text config.identifier)]).toList
      (simpleStatements ⟨[], "manager"⟩ (entryDocuments (managerEntries config))) := by
  refine readsAs_section rfl (fun _ member => absurd member List.not_mem_nil) isBare_manager
    (by decide) (managerEntries config) ?_
  intro entry member
  rw [List.mem_singleton.1 member]
  rfl

theorem readsAs_settings {settings : InfoDictionary}
    (areNumbers : ∀ entry ∈ settings.toList, entry.2.isNaN = false) :
    ReadsAs (renderSection "manager.settings" settings.toTomlEntries).toList
      (simpleStatements ⟨["manager"], "settings"⟩ (entryDocuments settings.toList)) := by
  refine readsAs_section rfl ?_ isBare_settings (by decide) settings.toList areNumbers
  intro key member
  rw [List.mem_singleton.1 member]
  exact isBare_manager

/-! ## The whole text -/

/-- The sections of a configuration: two for a manager, if there is one, and one for
logging. -/
def AppConfig.sections (config : AppConfig) : List Section :=
  (match config.manager with
    | none => []
    | some manager =>
        [simpleSection ⟨[], "manager"⟩ (entryDocuments (managerEntries manager)),
          simpleSection ⟨["manager"], "settings"⟩ (entryDocuments manager.settings.toList)]) ++
    [simpleSection ⟨[], "logging"⟩ (entryDocuments (loggingEntries config.logging))]

/-- The text of a configuration has the statements of its sections. -/
theorem exists_statements {config : AppConfig} (hasNumbers : config.HasNumbers) :
    ∃ statements, ReadsAs config.toToml.toList statements ∧
      sectionsOf statements = ⟨none, []⟩ :: config.sections := by
  have logging := readsAs_logging config.logging
  have loggingSection := foldr_addTo_simple ⟨[], "logging"⟩
    (entryDocuments (loggingEntries config.logging)) (rfl : [].foldr Statement.addTo _ = _)
  unfold AppConfig.toToml AppConfig.sections
  rw [String.toList_intercalate]
  cases held : config.manager with
  | none =>
      refine ⟨simpleStatements ⟨[], "logging"⟩
        (entryDocuments (loggingEntries config.logging)) ++ [], ?_, ?_⟩
      · rw [List.append_nil]
        simpa using logging
      · rw [sectionsOf, loggingSection]
        rfl
  | some manager =>
      have settings := readsAs_settings (hasNumbers manager held)
      have own := readsAs_manager manager
      have settingsSection := foldr_addTo_simple ⟨["manager"], "settings"⟩
        (entryDocuments manager.settings.toList) loggingSection
      have ownSection := foldr_addTo_simple ⟨[], "manager"⟩
        (entryDocuments (managerEntries manager)) settingsSection
      refine ⟨simpleStatements ⟨[], "manager"⟩ (entryDocuments (managerEntries manager)) ++
        (simpleStatements ⟨["manager"], "settings"⟩ (entryDocuments manager.settings.toList) ++
          (simpleStatements ⟨[], "logging"⟩ (entryDocuments (loggingEntries config.logging)) ++
            [])), ?_, ?_⟩
      · have text := own.append (readsAs_blankLine.append
          (settings.append (readsAs_blankLine.append logging)))
        simpa [ManagerConfig.toTomlSections, List.intercalate] using text
      · rw [sectionsOf, ownSection]
        rfl

theorem distinct_logging (config : LoggingConfig) :
    ((entryDocuments (loggingEntries config)).map Prod.fst).Nodup := by
  change ["level", "format"].Nodup
  decide

theorem distinct_manager (config : ManagerConfig) :
    ((entryDocuments (managerEntries config)).map Prod.fst).Nodup := by
  change ["identifier"].Nodup
  decide

theorem distinct_settings (settings : InfoDictionary) :
    ((entryDocuments settings.toList).map Prod.fst).Nodup := by
  have names : (entryDocuments settings.toList).map Prod.fst = settings.keys := by
    rw [entryDocuments, List.map_map]
    rfl
  rw [names]
  refine settings.keys_ascending.imp ?_
  intro first second less same
  rw [same] at less
  exact String.lt_irrefl second less

theorem LoggingConfig.toDocument_eq (config : LoggingConfig) :
    config.toDocument =
      .table [("format", .text config.format.name), ("level", .text config.level)] := by
  rw [LoggingConfig.toDocument, Document.ofFields, Entries.ofList_swapped (by decide)]

theorem AppConfig.toDocument_of_none {config : AppConfig} (none : config.manager = none) :
    config.toDocument = .table [("logging", config.logging.toDocument)] := by
  unfold AppConfig.toDocument
  rw [none]
  rfl

theorem AppConfig.toDocument_of_some {config : AppConfig} {manager : ManagerConfig}
    (held : config.manager = some manager) :
    config.toDocument =
      .table [("logging", config.logging.toDocument), ("manager", manager.toDocument)] := by
  unfold AppConfig.toDocument
  rw [held, List.singleton_append, Document.ofFields, Entries.ofList_swapped (by decide)]

theorem toDocument_manager (config : ManagerConfig) :
    config.toDocument = .table [("identifier", .text config.identifier),
      ("settings", .table (entryDocuments config.settings.toList))] := by
  rw [ManagerConfig.toDocument, Document.ofFields, Entries.ofList_pair (by decide)]
  rfl

def managerFields (config : ManagerConfig) : List (String × Node) :=
  [("identifier", .value (.text config.identifier)),
    ("settings", headerTable (entryDocuments config.settings.toList))]

theorem addSection_manager (config : ManagerConfig) :
    addSection [] (simpleSection ⟨[], "manager"⟩ (entryDocuments (managerEntries config))) =
      some [("manager", headerTable (entryDocuments (managerEntries config)))] :=
  addSection_new [] "manager" (distinct_manager config) rfl

theorem addSection_settings (config : ManagerConfig) :
    addSection [("manager", headerTable (entryDocuments (managerEntries config)))]
        (simpleSection ⟨["manager"], "settings"⟩ (entryDocuments config.settings.toList)) =
      some [("manager", .table .header (managerFields config))] := by
  have own : valueFields (entryDocuments (managerEntries config)) =
      [("identifier", .value (.text config.identifier))] := rfl
  have absent : Entries.get? "settings"
      [("identifier", Node.value (.text config.identifier))] = none := rfl
  rw [headerTable, own]
  exact addSection_below (distinct_settings config.settings) rfl absent

theorem addSection_logging (config : LoggingConfig) (fields : List (String × Node))
    (absent : Entries.get? "logging" fields = none) :
    addSection fields (simpleSection ⟨[], "logging"⟩ (entryDocuments (loggingEntries config))) =
      some (Entries.insert "logging" (headerTable (entryDocuments (loggingEntries config)))
        fields) :=
  addSection_new fields "logging" (distinct_logging config) absent

theorem toDocument_managerFields (config : ManagerConfig) :
    Node.toDocument (.table .header (managerFields config)) = config.toDocument := by
  have settings : Entries.ofList (entryDocuments config.settings.toList) =
      entryDocuments config.settings.toList :=
    Entries.ofList_of_ascending ((Entries.ascending_map_iff _ _).2 config.settings.ascending)
  rw [Node.toDocument, managerFields, fieldDocuments, fieldDocuments, fieldDocuments,
    Node.toDocument, toDocument_headerTable, settings, toDocument_manager]

theorem ofSections?_sections (config : AppConfig) :
    ofSections? (⟨none, []⟩ :: config.sections) = some config.toDocument := by
  have start : addSection [] ⟨none, []⟩ = some [] := rfl
  have logging := toDocument_headerTable (entryDocuments (loggingEntries config.logging))
  unfold ofSections? AppConfig.sections
  cases held : config.manager with
  | none =>
      have only := addSection_logging config.logging [] rfl
      simp only [List.nil_append, List.foldlM_cons, List.foldlM_nil, start, only,
        Option.bind_eq_bind, Option.bind_some, Option.pure_def, Option.map_some]
      rw [Entries.insert, fieldDocuments, fieldDocuments, logging,
        AppConfig.toDocument_of_none held]
      rfl
  | some manager =>
      have last := addSection_logging config.logging
        [("manager", .table .header (managerFields manager))] rfl
      simp only [List.cons_append, List.nil_append, List.foldlM_cons, List.foldlM_nil, start,
        addSection_manager, addSection_settings, last, Option.bind_eq_bind, Option.bind_some,
        Option.pure_def, Option.map_some]
      rw [Entries.insert_front (by decide), fieldDocuments, fieldDocuments, fieldDocuments, logging,
        toDocument_managerFields, AppConfig.toDocument_of_some held]
      rfl

/-- The text begins with a header. -/
theorem AppConfig.exists_toToml (config : AppConfig) :
    ∃ rest, config.toToml.toList = '[' :: rest := by
  unfold AppConfig.toToml
  rw [String.toList_intercalate]
  cases config.manager with
  | none =>
      exact ⟨_, by simp [LoggingConfig.toTomlSection, toList_renderSection]; rfl⟩
  | some manager =>
      exact ⟨_, by simp [ManagerConfig.toTomlSections, toList_renderSection, List.intercalate]; rfl⟩

theorem readStatements_nil {fuel : Nat} (enough : 0 < fuel) : readStatements fuel [] = some [] := by
  obtain ⟨fuel, rfl⟩ := Nat.exists_eq_succ_of_ne_zero (Nat.ne_of_gt enough)
  rfl

/-- The text of a configuration describes its document. -/
theorem parse_toToml {config : AppConfig} (hasNumbers : config.HasNumbers) :
    Toml.parse config.toToml = some config.toDocument := by
  obtain ⟨statements, readsAs, sections⟩ := exists_statements hasNumbers
  have noMark : ∀ rest, config.toToml.toList ≠ '\uFEFF' :: rest := by
    intro rest same
    obtain ⟨others, start⟩ := config.exists_toToml
    rw [start] at same
    cases (List.cons.inj same).1
  have read : readStatements (config.toToml.toList.length + 1) config.toToml.toList =
      some statements := by
    have whole := readsAs [] [] (fun fuel enough => readStatements_nil enough)
      (config.toToml.toList.length + 1)
    rw [List.append_nil, List.append_nil] at whole
    exact whole (Nat.lt_succ_self _)
  unfold Toml.parse
  dsimp only
  split
  · rename_i same
    exact absurd same (noMark _)
  · rw [read, Option.bind_some, sections, ofSections?_sections]

end AssetExchange
