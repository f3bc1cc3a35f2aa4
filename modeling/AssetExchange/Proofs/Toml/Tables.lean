import AssetExchange.Proofs.Json.Faithful
import AssetExchange.Toml.Reader

/-!
# Tables of configuration files

A section whose keys are all different defines a table with just these keys
(`defineAll_simple`), as a table of the file (`addSection_new`) or as one of a table that the
file has already (`addSection_below`).
-/

namespace AssetExchange

namespace Entries

variable {alpha beta : Type}

theorem insert_map (change : alpha → beta) (key : String) (value : alpha)
    (entries : List (String × alpha)) :
    insert key (change value) (entries.map fun entry => (entry.1, change entry.2)) =
      (insert key value entries).map fun entry => (entry.1, change entry.2) := by
  induction entries with
  | nil =>
      rfl
  | cons entry entries inductionHypothesis =>
      obtain ⟨name, held⟩ := entry
      rw [List.map_cons, insert, insert]
      split
      · rfl
      · split
        · rfl
        · rw [List.map_cons, inductionHypothesis]

theorem ofList_map (change : alpha → beta) (pairs : List (String × alpha)) :
    ofList (pairs.map fun pair => (pair.1, change pair.2)) =
      (ofList pairs).map fun entry => (entry.1, change entry.2) := by
  induction pairs using List.reverseRecOn with
  | nil =>
      rfl
  | append_singleton earlier last inductionHypothesis =>
      rw [List.map_append, List.map_singleton, ofList_concat, ofList_concat, inductionHypothesis]
      exact insert_map change last.1 last.2 (ofList earlier)

end Entries

namespace Toml

/-! ## Values of a table -/

section Defining

variable {pairs : List (String × Document)}

/-- The fields of a table that are values. -/
def valueFields (pairs : List (String × Document)) : List (String × Node) :=
  Entries.ofList (pairs.map fun pair => (pair.1, .value pair.2))

def simpleEntries (pairs : List (String × Document)) : List (KeyPath × Document) :=
  pairs.map fun pair => (⟨[], pair.1⟩, pair.2)

theorem define_simple {key : String} {document : Document} {held : List (String × Node)}
    (absent : Entries.get? key held = none) :
    define ⟨[], key⟩ document .header held = some (Entries.insert key (.value document) held) := by
  have simple : ¬((TableOrigin.header == .dotted) == ([] : List String).isEmpty) = true := by
    decide
  unfold define changeAt bind
  rw [if_neg simple, absent]
  rfl

theorem defineAll_concat (entries : List (KeyPath × Document)) (last : KeyPath × Document)
    (fields : List (String × Node)) :
    defineAll (entries ++ [last]) fields =
      (defineAll entries fields).bind (define last.1 last.2 .header) := by
  unfold defineAll
  rw [List.foldlM_append]
  simp

/-- Values with different keys are the fields of their table. -/
theorem defineAll_simple (distinct : (pairs.map Prod.fst).Nodup) :
    defineAll (simpleEntries pairs) [] = some (valueFields pairs) := by
  -- Each value is added to the fields of those before it, which lack its key.
  induction pairs using List.reverseRecOn with
  | nil =>
      rfl
  | append_singleton earlier last inductionHypothesis =>
      rw [List.map_append, List.nodup_append] at distinct
      obtain ⟨distinctEarlier, _, apart⟩ := distinct
      have absent : Entries.get? last.1 (valueFields earlier) = none := by
        apply Entries.get?_ofList_eq_none
        rw [List.map_map]
        intro member
        exact apart last.1 member last.1 (List.mem_singleton.2 rfl) rfl
      unfold simpleEntries at inductionHypothesis ⊢
      rw [List.map_append, List.map_singleton, defineAll_concat,
        inductionHypothesis distinctEarlier, Option.bind_some, define_simple absent]
      unfold valueFields
      rw [List.map_append, List.map_singleton, Entries.ofList_concat]

theorem fieldDocuments_eq (fields : List (String × Node)) :
    fieldDocuments fields = fields.map fun field => (field.1, field.2.toDocument) := by
  induction fields with
  | nil =>
      rfl
  | cons field fields inductionHypothesis =>
      rw [fieldDocuments, inductionHypothesis]
      rfl

theorem fieldDocuments_valueFields (pairs : List (String × Document)) :
    fieldDocuments (valueFields pairs) = Entries.ofList pairs := by
  have documents : (Entries.ofList pairs).map (fun entry => (entry.1, Node.value entry.2)) =
      valueFields pairs :=
    (Entries.ofList_map Node.value pairs).symm
  rw [fieldDocuments_eq, ← documents, List.map_map]
  have same : ((fun field : String × Node => (field.1, field.2.toDocument)) ∘
      fun entry : String × Document => (entry.1, Node.value entry.2)) = id := by
    funext entry
    rw [Function.comp_apply, Node.toDocument]
    rfl
  rw [same, List.map_id]

/-- The table that the section of a header defines. -/
def headerTable (pairs : List (String × Document)) : Node :=
  .table .header (valueFields pairs)

theorem toDocument_headerTable (pairs : List (String × Document)) :
    (headerTable pairs).toDocument = .table (Entries.ofList pairs) := by
  rw [headerTable, Node.toDocument, fieldDocuments_valueFields]

end Defining

/-! ## Sections -/

section Sections

variable {pairs : List (String × Document)} {fields inner : List (String × Node)}
  {key parent : String}

def simpleSection (path : KeyPath) (pairs : List (String × Document)) : Section :=
  ⟨some (path, false), simpleEntries pairs⟩

theorem fillTable_new (distinct : (pairs.map Prod.fst).Nodup) (origin : TableOrigin)
    (absent : Entries.get? key fields = none) :
    fillTable key (simpleEntries pairs) origin fields =
      some (Entries.insert key (headerTable pairs) fields) := by
  unfold fillTable
  dsimp only
  rw [absent, defineAll_simple distinct]
  rfl

/-- The section of a new table adds it to the file. -/
theorem addSection_new (fields : List (String × Node)) (key : String)
    (distinct : (pairs.map Prod.fst).Nodup) (absent : Entries.get? key fields = none) :
    addSection fields (simpleSection ⟨[], key⟩ pairs) =
      some (Entries.insert key (headerTable pairs) fields) :=
  fillTable_new distinct .header absent

/-- The section of a new table of a table adds it there. -/
theorem addSection_below (distinct : (pairs.map Prod.fst).Nodup) {origin : TableOrigin}
    (held : Entries.get? parent fields = some (.table origin inner))
    (absent : Entries.get? key inner = none) :
    addSection fields (simpleSection ⟨[parent], key⟩ pairs) =
      some (Entries.insert parent
        (.table origin (Entries.insert key (headerTable pairs) inner)) fields) := by
  have filled := fillTable_new distinct origin absent
  have passes : ¬(TableOrigin.implied = .dotted ∧ origin = .header) := by
    rintro ⟨same, _⟩
    cases same
  unfold addSection simpleSection
  dsimp only
  rw [if_neg Bool.false_ne_true, changeAt, held]
  dsimp only
  rw [if_neg passes, changeAt, filled]
  rfl

end Sections

/-! ## Statements of sections -/

def simpleStatements (path : KeyPath) (pairs : List (String × Document)) : List Statement :=
  .header path false :: pairs.map fun pair => .entry ⟨[], pair.1⟩ pair.2

/-- The entries after a header are those of its section, up to the next header. -/
theorem foldr_addTo_simple (path : KeyPath) (pairs : List (String × Document))
    {more : List Statement} {sections : List Section}
    (later : more.foldr Statement.addTo ([], []) = ([], sections)) :
    (simpleStatements path pairs ++ more).foldr Statement.addTo ([], []) =
      ([], simpleSection path pairs :: sections) := by
  have entries : ∀ pairs : List (String × Document),
      (pairs.map (fun pair => Statement.entry ⟨[], pair.1⟩ pair.2) ++ more).foldr
        Statement.addTo ([], []) = (simpleEntries pairs, sections) := by
    intro pairs
    induction pairs with
    | nil =>
        exact later
    | cons pair pairs inductionHypothesis =>
        rw [List.map_cons, List.cons_append, List.foldr_cons, inductionHypothesis]
        rfl
  rw [simpleStatements, List.cons_append, List.foldr_cons, entries]
  rfl

end Toml
end AssetExchange
