import AssetExchange.Proofs.Config.Acceptance
import AssetExchange.Proofs.Config.Variables
import AssetExchange.Proofs.Toml.Order

/-!
# Which layer a configuration comes from

A configuration is read from the defaults with a file and variables laid over them.  Where
every section is a table in each of these layers, each part of the configuration is what the
variables give it, or else what the file holds, or else the default (`Takes`), and there are
no settings but those of the file and the variables (`PrecedenceLaw`).

What is read is never a table (`isTable_of_text` and its like), so where something was read
the uppermost layer has prevailed as it stands (`eq_of_overlay`).  Laying documents over one
another asks for fields in order, which a file has that is loaded
(`loadFrom_takes_precedence`).
-/

namespace AssetExchange

open Document Environment

/-! ## What is read of a document -/

/-- A part was read, or there was none. -/
def Reads {alpha : Type} (extract : Extractor alpha) :
    Option Document → Option alpha → Prop
  | none, none => True
  | some part, some value => extract part = .ok value
  | _, _ => False

namespace Reads

variable {alpha : Type} {extract : Extractor alpha} {part : Option Document}
  {found : Option alpha}

theorem isSome_eq (reads : Reads extract part found) : part.isSome = found.isSome := by
  cases part <;> cases found <;> first | rfl | cases reads

theorem ok {document : Document} (reads : Reads extract (some document) found) :
    ∃ value, found = some value ∧ extract document = .ok value := by
  cases found with
  | none =>
      cases reads
  | some value =>
      exact ⟨value, rfl, reads⟩

theorem none (reads : Reads extract none found) : found = none := by
  cases found with
  | none =>
      rfl
  | some value =>
      cases reads

end Reads

theorem below_eq_ok {alpha : Type} {extract : Extractor alpha} {key : String}
    {part : Document} {value : alpha} (read : Extractor.below key extract part = .ok value) :
    extract part = .ok value := by
  unfold Extractor.below at read
  split at read
  · rename_i same
    cases read
    exact same
  · cases read

theorem reads_field? {alpha : Type} {extract : Extractor alpha} {key : String}
    {fields : List (String × Document)} {found : Option alpha}
    (read : Extractor.field? key extract fields = .ok found) :
    Reads extract (field? key (.table fields)) found := by
  unfold Extractor.field? at read
  change Reads extract (Entries.get? key fields) found
  cases held : Entries.get? key fields with
  | none =>
      rw [held] at read
      cases read
      trivial
  | some part =>
      rw [held] at read
      obtain ⟨value, below, rfl⟩ := ok_of_map read
      exact below_eq_ok below

theorem reads_entries {alpha : Type} {extract : Extractor alpha}
    {fields : List (String × Document)} {values : List (String × alpha)}
    (read : Extractor.entries extract fields = .ok values) :
    values.map Prod.fst = fields.map Prod.fst ∧
      ∀ key, Reads extract (Entries.get? key fields) (Entries.get? key values) := by
  induction fields generalizing values with
  | nil =>
      cases read
      exact ⟨rfl, fun _ => trivial⟩
  | cons field rest inductionHypothesis =>
      obtain ⟨name, part⟩ := field
      obtain ⟨value, first, read⟩ := ok_of_bind read
      obtain ⟨others, later, read⟩ := ok_of_bind read
      cases read
      obtain ⟨names, reads⟩ := inductionHypothesis later
      constructor
      · rw [List.map_cons, List.map_cons, names]
      · intro key
        rw [Entries.get?, Entries.get?]
        by_cases same : name = key
        · rw [if_pos same, if_pos same]
          exact below_eq_ok first
        · rw [if_neg same, if_neg same]
          exact reads key

/-! Nothing that is read is a table. -/

theorem isTable_of_text {part : Document} {value : String}
    (read : Extractor.text part = .ok value) : part.isTable = false := by
  cases part with
  | table fields =>
      cases read
  | _ =>
      rfl

theorem isTable_of_format {part : Document} {format : LogFormat}
    (read : LogFormat.extract part = .ok format) : part.isTable = false := by
  cases part with
  | table fields =>
      cases fields with
      | nil =>
          cases read
      | cons field rest =>
          obtain ⟨_, _, read⟩ := ok_of_bind read
          cases read
  | _ =>
      rfl

theorem isTable_of_property {part : Document} {value : PropertyValue}
    (read : PropertyValue.extract part = .ok value) : part.isTable = false := by
  cases part with
  | table fields =>
      cases read
  | _ =>
      rfl

/-! ## Sections -/

def sectionPaths : List (List String) := [["logging"], ["manager"], ["manager", "settings"]]

/-- A document whose sections are tables, as far as it has them. -/
structure Sectioned (document : Document) : Prop where
  isTable : document.isTable = true
  sections : ∀ path ∈ sectionPaths, ∀ value, document.valueAt? path = some value →
    value.isTable = true

theorem mem_sectionPaths_of_prefix {path before : List String} (isSection : path ∈ sectionPaths)
    (beginning : before <+: path) : before = [] ∨ before ∈ sectionPaths := by
  have enumerated : ∀ path ∈ sectionPaths, ∀ count ∈ List.range 3,
      path.take count = [] ∨ path.take count ∈ sectionPaths := by
    decide
  have short : ∀ path ∈ sectionPaths, path.length < 3 := by
    decide
  have length := beginning.length_le
  rw [List.prefix_iff_eq_take.1 beginning]
  apply enumerated path isSection
  rw [List.mem_range]
  exact Nat.lt_of_le_of_lt length (short path isSection)

theorem Sectioned.openTo {document : Document} (sectioned : Sectioned document)
    {path : List String} (isSection : path ∈ sectionPaths) : document.OpenTo path := by
  intro before beginning different value held
  rcases mem_sectionPaths_of_prefix isSection beginning with rfl | further
  · cases held
    exact sectioned.isTable
  · exact sectioned.sections before further value held

theorem Sectioned.openTo_entry {document : Document} (sectioned : Sectioned document)
    {path : List String} (isSection : path ∈ sectionPaths) (key : String) :
    document.OpenTo (path ++ [key]) := by
  intro before beginning different value held
  rcases List.prefix_concat_iff.1 beginning with same | beginning
  · exact absurd same different
  · rcases mem_sectionPaths_of_prefix isSection beginning with rfl | further
    · cases held
      exact sectioned.isTable
    · exact sectioned.sections before further value held

theorem Sectioned.merge {lower upper : Document} (sectioned : Sectioned lower)
    (sectionedUpper : Sectioned upper) (ordered : lower.Ordered)
    (orderedUpper : upper.Ordered) : Sectioned (lower.merge upper) := by
  constructor
  case isTable =>
    exact isTable_merge sectionedUpper.isTable lower
  case sections =>
    intro path isSection value held
    rw [valueAt?_merge ordered orderedUpper (sectionedUpper.openTo isSection)] at held
    cases upperPart : upper.valueAt? path with
    | none =>
        rw [upperPart] at held
        exact sectioned.sections path isSection value held
    | some part =>
        have isTable := sectionedUpper.sections path isSection part upperPart
        rw [upperPart] at held
        cases lowerPart : lower.valueAt? path with
        | none =>
            rw [lowerPart] at held
            cases held
            exact isTable
        | some other =>
            rw [lowerPart] at held
            cases held
            exact isTable_merge isTable other

/-- What was read as a configuration, part by part. -/
structure ReadFrom (document : Document) (config : AppConfig) : Prop where
  level : ∃ found, Reads Extractor.text (document.valueAt? ["logging", "level"]) found ∧
    config.logging.level = found.getD "info"
  format : ∃ found, Reads LogFormat.extract (document.valueAt? ["logging", "format"]) found ∧
    config.logging.format = found.getD .pretty
  manager : config.manager.isSome = (document.valueAt? ["manager"]).isSome
  identifier : ∀ manager, config.manager = some manager →
    Reads Extractor.text (document.valueAt? ["manager", "identifier"])
      (some manager.identifier)
  setting : ∀ manager, config.manager = some manager → ∀ key,
    Reads PropertyValue.extract (document.valueAt? ["manager", "settings", key])
      (manager.settings.get? key)

theorem valueAt?_singleton (key : String) (document : Document) :
    document.valueAt? [key] = document.field? key := by
  rw [valueAt?]
  cases document.field? key <;> rfl

theorem valueAt?_pair (first second : String) (document : Document) :
    document.valueAt? [first, second] =
      (document.field? first).bind fun part => part.field? second := by
  rw [valueAt?]
  congr 1
  funext part
  exact valueAt?_singleton second part

theorem reads_logging {fields : List (String × Document)} {logging : LoggingConfig}
    (read : LoggingConfig.extract (.table fields) = .ok logging) :
    (∃ found, Reads Extractor.text (field? "level" (.table fields)) found ∧
        logging.level = found.getD "info") ∧
      ∃ found, Reads LogFormat.extract (field? "format" (.table fields)) found ∧
        logging.format = found.getD .pretty := by
  obtain ⟨format, formatRead, read⟩ := ok_of_bind read
  obtain ⟨level, levelRead, read⟩ := ok_of_bind read
  cases read
  exact ⟨⟨level, reads_field? levelRead, rfl⟩, format, reads_field? formatRead, rfl⟩

theorem reads_settings {fields : List (String × Document)}
    (ascending : Entries.Ascending fields) {settings : InfoDictionary}
    (read : InfoDictionary.extract (.table fields) = .ok settings) (key : String) :
    Reads PropertyValue.extract (field? key (.table fields)) (settings.get? key) := by
  obtain ⟨values, entries, rfl⟩ := ok_of_map read
  obtain ⟨names, reads⟩ := reads_entries entries
  have ascendingValues : Entries.Ascending values := by
    have keys : (values.map Prod.fst).Pairwise (· < ·) := by
      rw [names]
      exact List.pairwise_map.2 ascending
    exact List.pairwise_map.1 keys
  have same : (Dictionary.ofList values).get? key = Entries.get? key values :=
    congrArg (Entries.get? key) (Entries.ofList_of_ascending ascendingValues)
  rw [same]
  exact reads key

theorem reads_manager {fields : List (String × Document)}
    (ordered : Ordered (.table fields)) {manager : ManagerConfig}
    (settingsTable : ∀ part, field? "settings" (.table fields) = some part →
      part.isTable = true)
    (read : ManagerConfig.extract (.table fields) = .ok manager) :
    Reads Extractor.text (field? "identifier" (.table fields)) (some manager.identifier) ∧
      ∀ key, Reads PropertyValue.extract
        ((field? "settings" (.table fields)).bind fun part => part.field? key)
        (manager.settings.get? key) := by
  obtain ⟨identifier, identifierRead, read⟩ := ok_of_bind read
  obtain ⟨settings, settingsRead, read⟩ := ok_of_bind read
  cases identifier with
  | none =>
      cases read
  | some identifier =>
      cases read
      refine ⟨reads_field? identifierRead, fun key => ?_⟩
      have reads := reads_field? settingsRead
      cases held : field? "settings" (.table fields) with
      | none =>
          rw [held] at reads
          rw [reads.none]
          trivial
      | some part =>
          obtain ⟨inner, rfl⟩ := exists_table (settingsTable part held)
          rw [held] at reads
          obtain ⟨values, rfl, inside⟩ := reads.ok
          exact reads_settings (ordered.field held).fields.1 inside key

theorem Sectioned.isTable_field {fields : List (String × Document)}
    (sectioned : Sectioned (.table fields)) {key : String} (isSection : [key] ∈ sectionPaths)
    {part : Document} (held : field? key (.table fields) = some part) : part.isTable = true :=
  sectioned.sections [key] isSection part ((valueAt?_singleton key _).trans held)

theorem reads_loggingSection {fields : List (String × Document)}
    (sectioned : Sectioned (.table fields)) {logging : Option LoggingConfig}
    (reads : Reads LoggingConfig.extract (field? "logging" (.table fields)) logging) :
    (∃ found, Reads Extractor.text (valueAt? ["logging", "level"] (.table fields)) found ∧
        (logging.getD .default).level = found.getD "info") ∧
      ∃ found, Reads LogFormat.extract (valueAt? ["logging", "format"] (.table fields)) found ∧
        (logging.getD .default).format = found.getD .pretty := by
  rw [valueAt?_pair, valueAt?_pair]
  cases held : field? "logging" (.table fields) with
  | none =>
      rw [held] at reads
      rw [reads.none]
      exact ⟨⟨none, trivial, rfl⟩, none, trivial, rfl⟩
  | some part =>
      rw [held] at reads
      obtain ⟨value, rfl, read⟩ := reads.ok
      obtain ⟨inner, rfl⟩ := exists_table (sectioned.isTable_field (by decide) held)
      exact reads_logging read

theorem reads_managerSection {fields : List (String × Document)}
    (sectioned : Sectioned (.table fields)) (ordered : Ordered (.table fields))
    {manager : ManagerConfig}
    (reads : Reads ManagerConfig.extract (field? "manager" (.table fields)) (some manager)) :
    Reads Extractor.text (valueAt? ["manager", "identifier"] (.table fields))
        (some manager.identifier) ∧
      ∀ key, Reads PropertyValue.extract (valueAt? ["manager", "settings", key] (.table fields))
        (manager.settings.get? key) := by
  cases held : field? "manager" (.table fields) with
  | none =>
      rw [held] at reads
      cases reads
  | some part =>
      rw [held] at reads
      obtain ⟨inner, rfl⟩ := exists_table (sectioned.isTable_field (by decide) held)
      have settingsTable : ∀ settings, field? "settings" (.table inner) = some settings →
          settings.isTable = true := by
        intro settings found
        apply sectioned.sections ["manager", "settings"] (by decide) settings
        rw [valueAt?_pair, held]
        exact found
      obtain ⟨identifier, settings⟩ := reads_manager (ordered.field held) settingsTable reads
      constructor
      · rw [valueAt?_pair, held]
        exact identifier
      · intro key
        rw [valueAt?, held, Option.bind_some, valueAt?_pair]
        exact settings key

theorem readFrom_of_extract {document : Document} (sectioned : Sectioned document)
    (ordered : document.Ordered) {config : AppConfig}
    (read : AppConfig.extract document = .ok config) : ReadFrom document config := by
  obtain ⟨fields, rfl⟩ := exists_table sectioned.isTable
  obtain ⟨logging, loggingRead, read⟩ := ok_of_bind read
  obtain ⟨manager, managerRead, read⟩ := ok_of_bind read
  cases read
  have managerReads := reads_field? managerRead
  obtain ⟨level, format⟩ := reads_loggingSection sectioned (reads_field? loggingRead)
  constructor
  case level =>
    exact level
  case format =>
    exact format
  case manager =>
    rw [valueAt?_singleton]
    exact managerReads.isSome_eq.symm
  case identifier =>
    rintro value rfl
    exact (reads_managerSection sectioned ordered managerReads).1
  case setting =>
    rintro value rfl
    exact (reads_managerSection sectioned ordered managerReads).2

/-! ## Layers of a configuration -/

/-- A file and variables that can be laid over one another: the file's tables are in order,
the variables' paths lie apart, and sections are tables in both. -/
structure Layered (file : Document) (bindings : List (String × String)) : Prop where
  ordered : file.Ordered
  sectioned : Sectioned file
  disjoint : PathsApart bindings
  sections : ∀ path ∈ sectionPaths, ∀ value, Gives bindings path value →
    value.isTable = true

/-- The part of a configuration at a path is read from what variables give that path, or else
from what the file holds there, or else it is as by default. -/
structure Takes (file : Document) (bindings : List (String × String)) (path : List String)
    (read : Document → Prop) (byDefault : Prop) : Prop where
  given : ∀ value, Gives bindings path value → read value
  held : (∀ value, ¬ Gives bindings path value) →
    ∀ value, file.valueAt? path = some value → read value
  neither : (∀ value, ¬ Gives bindings path value) → file.valueAt? path = none → byDefault

def layersOf (file : Document) (bindings : List (String × String)) : Document :=
  .ofLayers [AppConfig.default.toDocument, file, layer bindings]

/-- Of two layers the upper one prevails as it stands, unless what prevails is a table. -/
theorem eq_of_overlay {lower upper : Option Document} {value : Document}
    (other : value.isTable = false) (prevails : overlay lower upper = some value) :
    upper.or lower = some value := by
  cases upper with
  | none =>
      exact prevails
  | some upper =>
      cases lower with
      | none =>
          exact prevails
      | some lower =>
          have merged : merge lower upper = value := Option.some.inj prevails
          by_cases isTable : upper.isTable = true
          · rw [← merged, isTable_merge isTable] at other
            cases other
          · rw [merge_of_not_table (.inr (Bool.eq_false_iff.2 isTable))] at merged
            rw [merged]
            rfl

theorem overlay_eq_none_iff {lower upper : Option Document} :
    overlay lower upper = none ↔ lower = none ∧ upper = none := by
  cases lower <;> cases upper <;> simp [overlay]

theorem ordered_default : AppConfig.default.toDocument.Ordered := by
  apply ordered_ofFields
  intro field member
  rw [List.mem_singleton.1 member]
  apply ordered_ofFields
  intro entry inside
  rcases List.mem_cons.1 inside with rfl | last
  · exact .other rfl
  · rw [List.mem_singleton.1 last]
    exact .other rfl

theorem sectioned_default : Sectioned AppConfig.default.toDocument := by
  constructor
  case isTable =>
    rfl
  case sections =>
    intro path isSection value held
    simp only [sectionPaths, List.mem_cons, List.not_mem_nil, or_false] at isSection
    rcases isSection with rfl | rfl | rfl
    · cases held
      rfl
    · cases held
    · cases held

section Layers

variable {file : Document} {bindings : List (String × String)} {path : List String}

theorem isTable_layer (bindings : List (String × String)) :
    (layer bindings).isTable = true := by
  have proper := proper_assignments bindings
  rw [layer_eq]
  rcases List.eq_nil_or_concat (assignments bindings) with nothing | ⟨earlier, last, split⟩
  · rw [nothing]
    rfl
  · rw [split, List.concat_eq_append] at proper ⊢
    rw [ofAssignments_concat]
    exact isTable_merge (isTable_atPath last.2 (proper last List.mem_concat_self).1) _

theorem Layered.sectioned_layer (layered : Layered file bindings) :
    Sectioned (layer bindings) := by
  constructor
  case isTable =>
    exact isTable_layer bindings
  case sections =>
    intro path isSection value held
    have below : path ≠ [] := by
      rintro rfl
      revert isSection
      decide
    rcases gives_or_isTable layered.disjoint below held with gives | isTable
    · exact layered.sections path isSection value gives
    · exact isTable

theorem layersOf_eq (file : Document) (bindings : List (String × String)) :
    layersOf file bindings =
      (AppConfig.default.toDocument.merge file).merge (layer bindings) :=
  rfl

theorem Layered.ordered_merge (layered : Layered file bindings) :
    (AppConfig.default.toDocument.merge file).Ordered :=
  Document.ordered_merge ordered_default layered.ordered

theorem Layered.sectioned_layersOf (layered : Layered file bindings) :
    Sectioned (layersOf file bindings) := by
  rw [layersOf_eq]
  exact (sectioned_default.merge layered.sectioned ordered_default layered.ordered).merge
    layered.sectioned_layer layered.ordered_merge (ordered_layer bindings)

theorem Layered.ordered_layersOf (layered : Layered file bindings) :
    (layersOf file bindings).Ordered := by
  rw [layersOf_eq]
  exact Document.ordered_merge layered.ordered_merge (ordered_layer bindings)

theorem Layered.valueAt?_layersOf (layered : Layered file bindings)
    (openFile : file.OpenTo path) (openLayer : (layer bindings).OpenTo path) :
    (layersOf file bindings).valueAt? path =
      overlay (overlay (AppConfig.default.toDocument.valueAt? path) (file.valueAt? path))
        ((layer bindings).valueAt? path) := by
  rw [layersOf_eq, valueAt?_merge layered.ordered_merge (ordered_layer bindings) openLayer,
    valueAt?_merge ordered_default layered.ordered openFile]

/-- What was read where an upper layer holds something was read of that layer. -/
theorem Reads.of_overlay {alpha : Type} {extract : Extractor alpha}
    (other : ∀ {part value}, extract part = .ok value → part.isTable = false)
    {lower : Option Document} {upper : Document} {found : Option alpha}
    (reads : Reads extract (overlay lower (some upper)) found) :
    ∃ result, found = some result ∧ extract upper = .ok result := by
  cases prevails : overlay lower (some upper) with
  | none =>
      cases (overlay_eq_none_iff.1 prevails).2
  | some value =>
      rw [prevails] at reads
      obtain ⟨result, same, read⟩ := reads.ok
      have kept := eq_of_overlay (other read) prevails
      rw [Option.some_or] at kept
      cases kept
      exact ⟨result, same, read⟩

/-- What is read of the layers in a section is read of the uppermost one that has it. -/
theorem Layered.takes {alpha : Type} (layered : Layered file bindings)
    {extract : Extractor alpha}
    (other : ∀ {part value}, extract part = .ok value → part.isTable = false)
    (isSection : path ∈ sectionPaths) {key : String} {found : Option alpha}
    (reads : Reads extract ((layersOf file bindings).valueAt? (path ++ [key])) found) :
    Takes file bindings (path ++ [key])
      (fun value => ∃ result, found = some result ∧ extract value = .ok result)
      (Reads extract (AppConfig.default.toDocument.valueAt? (path ++ [key])) found) := by
  rw [layered.valueAt?_layersOf (layered.sectioned.openTo_entry isSection key)
    (layered.sectioned_layer.openTo_entry isSection key)] at reads
  have below : path ++ [key] ≠ [] := List.concat_ne_nil key path
  -- A path that no variable gives a value may still be one on which variables have tables;
  -- but then nothing could have been read.
  have ungiven : (∀ value, ¬ Gives bindings (path ++ [key]) value) →
      (layer bindings).valueAt? (path ++ [key]) = none := by
    intro ungiven
    cases held : (layer bindings).valueAt? (path ++ [key]) with
    | none =>
        rfl
    | some value =>
        rw [held] at reads
        obtain ⟨result, _, read⟩ := reads.of_overlay other
        rcases gives_or_isTable layered.disjoint below held with gives | isTable
        · exact absurd gives (ungiven value)
        · rw [other read] at isTable
          cases isTable
  constructor
  case given =>
    intro value gives
    rw [valueAt?_layer_of_gives layered.disjoint gives] at reads
    exact reads.of_overlay other
  case held =>
    intro none value held
    rw [ungiven none, held] at reads
    exact Reads.of_overlay other reads
  case neither =>
    intro none absent
    rw [ungiven none, absent] at reads
    exact reads

/-- There is a part in the layers if one of them has it. -/
theorem Layered.manager_eq_none_iff (layered : Layered file bindings) :
    (layersOf file bindings).valueAt? ["manager"] = none ↔
      file.valueAt? ["manager"] = none ∧
        ∀ assignment ∈ assignments bindings, ¬ ["manager"] <+: assignment.1 := by
  have isSection : ["manager"] ∈ sectionPaths := by
    decide
  have below : ["manager"] ≠ [] := by
    decide
  rw [layered.valueAt?_layersOf (layered.sectioned.openTo isSection)
    (layered.sectioned_layer.openTo isSection), overlay_eq_none_iff, overlay_eq_none_iff,
    valueAt?_layer_eq_none_iff layered.disjoint below]
  constructor
  · rintro ⟨⟨_, absent⟩, _, unmentioned⟩
    exact ⟨absent, unmentioned⟩
  · rintro ⟨absent, unmentioned⟩
    refine ⟨⟨rfl, absent⟩, ?_, unmentioned⟩
    rintro given ⟨own, held, rest, member, split, _⟩
    apply unmentioned _ member
    -- A path that is above a single key and is not empty is that key.
    cases own with
    | nil =>
        exact absurd rfl (proper_assignments bindings _ member).1
    | cons key others =>
        obtain ⟨rfl, nothing⟩ := List.cons.inj split
        obtain ⟨rfl, _⟩ := List.append_eq_nil_iff.1 nothing.symm
        exact List.prefix_rfl

end Layers

/-! ## The law -/

/-- Which layer each part of a loaded configuration comes from.  The settings are those of
the layers with their placeholders replaced. -/
structure PrecedenceLaw (file : Document) (bindings : List (String × String))
    (directory : Option String) (loaded : AppConfig) : Prop where
  level : Takes file bindings ["logging", "level"]
    (fun value => Extractor.text value = .ok loaded.logging.level)
    (loaded.logging.level = "info")
  format : Takes file bindings ["logging", "format"]
    (fun value => LogFormat.extract value = .ok loaded.logging.format)
    (loaded.logging.format = .pretty)
  /-- There is no manager exactly if neither the file has a section for it nor a variable sets
  that section or anything in it. -/
  absent : loaded.manager = none ↔
    file.valueAt? ["manager"] = none ∧
      ∀ assignment ∈ assignments bindings, ¬ ["manager"] <+: assignment.1
  /-- There is no default for an identifier, so one of the layers has it. -/
  identifier : ∀ manager, loaded.manager = some manager →
    Takes file bindings ["manager", "identifier"]
      (fun value => Extractor.text value = .ok manager.identifier) False
  setting : ∀ manager, loaded.manager = some manager → ∀ key,
    Takes file bindings ["manager", "settings", key]
      (fun value => ∃ setting, PropertyValue.extract value = .ok setting ∧
        manager.settings.get? key = some (setting.expandIn directory))
      (manager.settings.get? key = none)
  keys : ∀ manager, loaded.manager = some manager → ∀ key,
    key ∈ manager.settings.keys ↔
      (∃ value, Gives bindings ["manager", "settings", key] value) ∨
        (file.valueAt? ["manager", "settings", key]).isSome = true
  valid : loaded.validate = .ok ()

theorem Takes.imp {file : Document} {bindings : List (String × String)} {path : List String}
    {read other : Document → Prop} {byDefault otherDefault : Prop}
    (takes : Takes file bindings path read byDefault)
    (reads : ∀ value, read value → other value) (defaults : byDefault → otherDefault) :
    Takes file bindings path other otherDefault where
  given := fun value gives => reads value (takes.given value gives)
  held := fun ungiven value held => reads value (takes.held ungiven value held)
  neither := fun ungiven absent => defaults (takes.neither ungiven absent)

section Law

variable {file : Document} {bindings : List (String × String)} {config : AppConfig}

theorem Layered.takes_logging (layered : Layered file bindings)
    (readFrom : ReadFrom (layersOf file bindings) config) :
    Takes file bindings ["logging", "level"]
        (fun value => Extractor.text value = .ok config.logging.level)
        (config.logging.level = "info") ∧
      Takes file bindings ["logging", "format"]
        (fun value => LogFormat.extract value = .ok config.logging.format)
        (config.logging.format = .pretty) := by
  have isSection : ["logging"] ∈ sectionPaths := by
    decide
  constructor
  · obtain ⟨found, reads, same⟩ := readFrom.level
    refine (layered.takes isTable_of_text isSection reads).imp ?_ ?_
    · rintro value ⟨level, rfl, read⟩
      rw [same]
      exact read
    · intro reads
      obtain ⟨level, rfl, read⟩ := Reads.ok reads
      cases read
      exact same
  · obtain ⟨found, reads, same⟩ := readFrom.format
    refine (layered.takes isTable_of_format isSection reads).imp ?_ ?_
    · rintro value ⟨format, rfl, read⟩
      rw [same]
      exact read
    · intro reads
      obtain ⟨format, rfl, read⟩ := Reads.ok reads
      cases read
      exact same

theorem Layered.takes_identifier (layered : Layered file bindings)
    (readFrom : ReadFrom (layersOf file bindings) config) {manager : ManagerConfig}
    (held : config.manager = some manager) :
    Takes file bindings ["manager", "identifier"]
      (fun value => Extractor.text value = .ok manager.identifier) False := by
  have isSection : ["manager"] ∈ sectionPaths := by
    decide
  refine (layered.takes isTable_of_text isSection (readFrom.identifier manager held)).imp ?_ id
  rintro value ⟨identifier, same, read⟩
  cases same
  exact read

theorem Layered.takes_setting (layered : Layered file bindings)
    (readFrom : ReadFrom (layersOf file bindings) config) {manager : ManagerConfig}
    (held : config.manager = some manager) (key : String) :
    Takes file bindings ["manager", "settings", key]
      (fun value => ∃ setting, manager.settings.get? key = some setting ∧
        PropertyValue.extract value = .ok setting)
      (manager.settings.get? key = none) := by
  have isSection : ["manager", "settings"] ∈ sectionPaths := by
    decide
  exact (layered.takes isTable_of_property isSection (readFrom.setting manager held key)).imp
    (fun _ read => read) Reads.none

/-- There are no other keys than those that a layer has. -/
theorem Takes.isSome_iff {path : List String} {found : Option PropertyValue}
    (takes : Takes file bindings path
      (fun value => ∃ setting, found = some setting ∧ PropertyValue.extract value = .ok setting)
      (found = none)) :
    found.isSome = true ↔
      (∃ value, Gives bindings path value) ∨ (file.valueAt? path).isSome = true := by
  have some_of_read : (∃ value setting, found = some setting ∧
      PropertyValue.extract value = .ok setting) → found.isSome = true := by
    rintro ⟨_, setting, rfl, _⟩
    rfl
  by_cases given : ∃ value, Gives bindings path value
  · obtain ⟨value, gives⟩ := given
    exact ⟨fun _ => .inl ⟨value, gives⟩, fun _ => some_of_read ⟨value, takes.given value gives⟩⟩
  · have ungiven : ∀ value, ¬ Gives bindings path value := fun value gives =>
      given ⟨value, gives⟩
    cases held : file.valueAt? path with
    | none =>
        rw [takes.neither ungiven held]
        simp [given]
    | some value =>
        exact ⟨fun _ => .inr rfl,
          fun _ => some_of_read ⟨value, takes.held ungiven value held⟩⟩

theorem Layered.precedenceLaw (layered : Layered file bindings)
    (read : AppConfig.ofLayers file bindings = .ok config) (valid : config.validate = .ok ())
    (directory : Option String) :
    PrecedenceLaw file bindings directory (config.expand directory) := by
  have readFrom : ReadFrom (layersOf file bindings) config :=
    readFrom_of_extract layered.sectioned_layersOf layered.ordered_layersOf read
  obtain ⟨level, format⟩ := layered.takes_logging readFrom
  have managerHeld : ∀ manager, (config.expand directory).manager = some manager →
      ∃ before, config.manager = some before ∧ before.expandIn directory = manager := by
    intro manager held
    rw [AppConfig.manager_expand] at held
    exact Option.map_eq_some_iff.1 held
  constructor
  case level =>
    rw [AppConfig.logging_expand]
    exact level
  case format =>
    rw [AppConfig.logging_expand]
    exact format
  case absent =>
    have same : config.manager = none ↔ (layersOf file bindings).valueAt? ["manager"] = none := by
      rw [← Option.not_isSome_iff_eq_none, readFrom.manager, Option.not_isSome_iff_eq_none]
    rw [AppConfig.manager_expand, Option.map_eq_none_iff, ← layered.manager_eq_none_iff]
    exact same
  case identifier =>
    intro manager held
    obtain ⟨before, heldBefore, rfl⟩ := managerHeld manager held
    rw [ManagerConfig.identifier_expandIn]
    exact layered.takes_identifier readFrom heldBefore
  case setting =>
    intro manager held key
    obtain ⟨before, heldBefore, rfl⟩ := managerHeld manager held
    rw [ManagerConfig.get?_settings_expandIn]
    refine (layered.takes_setting readFrom heldBefore key).imp ?_ ?_
    · rintro value ⟨setting, same, read⟩
      rw [same]
      exact ⟨setting, read, rfl⟩
    · intro none
      rw [none]
      rfl
  case keys =>
    intro manager held key
    obtain ⟨before, heldBefore, rfl⟩ := managerHeld manager held
    rw [Dictionary.mem_keys_iff, Dictionary.contains, ManagerConfig.get?_settings_expandIn,
      Option.isSome_map]
    exact (layered.takes_setting readFrom heldBefore key).isSome_iff
  case valid =>
    rw [AppConfig.validate_expand]
    exact valid

end Law

/-- What a file and variables come to obeys the law if it is a configuration. -/
theorem Layered.law_of_resolve {file : Document} {bindings : List (String × String)}
    (layered : Layered file bindings) {directory : Option String} {loaded : AppConfig}
    (resolved : AppConfig.resolve file bindings directory = .ok loaded) :
    PrecedenceLaw file bindings directory loaded := by
  obtain ⟨config, read, accepted⟩ := ok_of_bind resolved
  obtain ⟨valid, rfl⟩ := AppConfig.accept_eq_ok accepted
  cases layers : AppConfig.ofLayers file bindings with
  | error error =>
      rw [layers] at read
      cases read
  | ok found =>
      rw [layers] at read
      cases read
      exact layered.precedenceLaw layers valid directory

/-- A configuration that is loaded takes each of its parts from the uppermost layer that has
it; layers that make up an invalid configuration are refused with what is wrong about it. -/
theorem resolve_takes_precedence (file : Document) (bindings : List (String × String))
    (directory : Option String) (layered : Layered file bindings) :
    (∀ loaded, AppConfig.resolve file bindings directory = .ok loaded →
      PrecedenceLaw file bindings directory loaded) ∧
    ∀ config problem, AppConfig.ofLayers file bindings = .ok config →
      config.validate = .error problem →
        AppConfig.resolve file bindings directory = .error (.invalid problem) := by
  constructor
  · intro loaded resolved
    exact layered.law_of_resolve resolved
  · intro config problem read invalid
    unfold AppConfig.resolve
    rw [read]
    exact AppConfig.accept_of_invalid invalid directory

theorem ordered_fileLayer {content : Option String} {file : Document}
    (read : AppConfig.fileLayer content = .ok file) : file.Ordered := by
  cases content with
  | none =>
      cases read
      exact ordered_empty
  | some content =>
      rw [AppConfig.fileLayer] at read
      split at read
      · rename_i parsed
        cases read
        exact Toml.ordered_parse parsed
      · cases read

/-- The document of a file that is loaded is in order, so the law needs no more than tables
for sections and paths that lie apart. -/
theorem loadFrom_takes_precedence {surroundings : Surroundings} {path : String}
    {loaded : AppConfig} (loads : AppConfig.loadFrom surroundings path = .ok loaded) :
    let tree := surroundings.tree
    let route := TreePath.ofText tree.top path
    let bindings := surroundings.environment.toList
    ∃ place file, tree.locate surroundings.working route = .ok place ∧
      AppConfig.fileLayer (tree.findContent? surroundings.working route) = .ok file ∧
      (Sectioned file → PathsApart bindings →
        (∀ path ∈ sectionPaths, ∀ value, Gives bindings path value → value.isTable = true) →
        PrecedenceLaw file bindings (tree.holderText? place) loaded) := by
  intro tree route bindings
  unfold AppConfig.loadFrom at loads
  dsimp only at loads
  split at loads
  · cases loads
  · rename_i place located
    obtain ⟨file, read, resolved⟩ := ok_of_bind loads
    refine ⟨place, file, located, read, fun sectioned disjoint sections => ?_⟩
    have layered : Layered file bindings :=
      ⟨ordered_fileLayer read, sectioned, disjoint, sections⟩
    exact layered.law_of_resolve resolved

/-! ## A studio's configuration -/

def studioFile : Document :=
  .table [("logging", .table [("level", .text "warn")]),
    ("manager", .table [("identifier", .text "org.studio.stock"),
      ("settings", .table [("library", .text "$\x7bconfig_dir\x7d/library.json"),
        ("retries", .signed 3)])])]

/-- Variables that set some of what the file has, and something else. -/
def studioVariables : List (String × String) :=
  [("ASSETIO__LOGGING__LEVEL", "debug"), ("ASSETIO__MANAGER__SETTINGS__RETRIES", "5"),
    ("assetio__manager__settings__cache", "true"), ("HOME", "/home/studio")]

def studioConfig : AppConfig :=
  ⟨some ⟨"org.studio.stock", .ofList [("cache", .bool true),
      ("library", .text "$\x7bconfig_dir\x7d/library.json"), ("retries", .int 5)]⟩,
    ⟨"debug", .pretty⟩⟩

theorem assignments_studio : assignments studioVariables =
    [(["logging", "level"], .text "debug"), (["manager", "settings", "retries"], .unsigned 5),
      (["manager", "settings", "cache"], .bool true)] := by
  have level : path? "ASSETIO__LOGGING__LEVEL" = some ["logging", "level"] := by
    decide +kernel
  have retries : path? "ASSETIO__MANAGER__SETTINGS__RETRIES" =
      some ["manager", "settings", "retries"] := by
    decide +kernel
  have cache : path? "assetio__manager__settings__cache" =
      some ["manager", "settings", "cache"] := by
    decide +kernel
  have other : path? "HOME" = none := by
    decide +kernel
  have word : Environment.value "debug" = .text "debug" := rfl
  have number : Environment.value "5" = .unsigned 5 := rfl
  have truth : Environment.value "true" = .bool true := rfl
  simp only [assignments, studioVariables, List.filterMap_cons, List.filterMap_nil, level, retries,
    cache, other, word, number, truth, Option.map_some, Option.map_none]

theorem layered_studio : Layered studioFile studioVariables := by
  constructor
  case ordered =>
    have library : Ordered (.table [("library", .text "$\x7bconfig_dir\x7d/library.json"),
        ("retries", .signed 3)]) :=
      .table (Entries.ascending_pair (by decide) _ _) fun field member => by
        simp only [List.mem_cons, List.not_mem_nil, or_false] at member
        rcases member with rfl | rfl
        · exact .other rfl
        · exact .other rfl
    refine .table (Entries.ascending_pair (by decide) _ _) fun field member => ?_
    simp only [List.mem_cons, List.not_mem_nil, or_false] at member
    rcases member with rfl | rfl
    · refine .table (List.pairwise_singleton _ _) fun field member => ?_
      rw [List.mem_singleton.1 member]
      exact .other rfl
    · refine .table (Entries.ascending_pair (by decide) _ _) fun field member => ?_
      simp only [List.mem_cons, List.not_mem_nil, or_false] at member
      rcases member with rfl | rfl
      · exact .other rfl
      · exact library
  case sectioned =>
    constructor
    case isTable =>
      rfl
    case sections =>
      intro path isSection value held
      simp only [sectionPaths, List.mem_cons, List.not_mem_nil, or_false] at isSection
      rcases isSection with rfl | rfl | rfl
      · cases held
        rfl
      · cases held
        rfl
      · cases held
        rfl
  case disjoint =>
    unfold PathsApart
    rw [assignments_studio]
    simp [Apart]
  case sections =>
    rintro path isSection value ⟨own, held, rest, member, rfl, _⟩
    rw [assignments_studio] at member
    simp only [List.mem_cons, List.not_mem_nil, or_false, Prod.mk.injEq] at member
    rcases member with ⟨rfl, _⟩ | ⟨rfl, _⟩ | ⟨rfl, _⟩ <;> simp [sectionPaths] at isSection

theorem layersOf_studio : layersOf studioFile studioVariables =
    .table [("logging", .table [("format", .text "pretty"), ("level", .text "debug")]),
      ("manager", .table [("identifier", .text "org.studio.stock"),
        ("settings", .table [("cache", .bool true),
          ("library", .text "$\x7bconfig_dir\x7d/library.json"), ("retries", .unsigned 5)])])] := by
  rw [layersOf_eq, layer_eq, assignments_studio]
  rfl

theorem resolve_studio (directory : Option String) :
    AppConfig.resolve studioFile studioVariables directory =
      .ok (studioConfig.expand directory) := by
  have read : AppConfig.extract (layersOf studioFile studioVariables) = .ok studioConfig := by
    rw [layersOf_studio]
    rfl
  have valid : studioConfig.validate = .ok () := by
    decide +kernel
  rw [← AppConfig.accept_of_valid valid directory]
  exact congrArg (fun found => found.mapError ConfigError.extraction >>= fun config =>
    AppConfig.accept directory config) read

theorem resolve_takes_precedence_studio :
    Layered studioFile studioVariables ∧
      AppConfig.resolve studioFile studioVariables (some "/conf") =
        .ok (studioConfig.expand (some "/conf")) ∧
      PrecedenceLaw studioFile studioVariables (some "/conf")
        (studioConfig.expand (some "/conf")) :=
  ⟨layered_studio, resolve_studio (some "/conf"),
    (resolve_takes_precedence studioFile studioVariables (some "/conf") layered_studio).1 _
      (resolve_studio (some "/conf"))⟩

end AssetExchange
