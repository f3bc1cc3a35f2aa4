import Mathlib.Data.Option.Basic
import AssetExchange.Proofs.Config.Merging
import AssetExchange.Proofs.Toml.Tables

/-!
# Files are read in order

Documents that are laid over one another have to be in order (`Document.Ordered`), and a
configuration file is, whatever it says (`ordered_parse`).  While the file is read its tables
come about by changes to fields, each of which leaves the fields in order (`KeepsOrder`).
-/

namespace AssetExchange
namespace Toml

open Document

/-! ## Fields while a file is read -/

/-- The fields make up a document in order. -/
def InOrder (fields : List (String × Node)) : Prop :=
  Entries.Ascending fields ∧ ∀ field ∈ fields, field.2.toDocument.Ordered

theorem inOrder_nil : InOrder [] :=
  ⟨Entries.ascending_nil, List.forall_mem_nil _⟩

theorem ordered_fieldDocuments_iff {fields : List (String × Node)} :
    Ordered (.table (fieldDocuments fields)) ↔ InOrder fields := by
  rw [fieldDocuments_eq]
  constructor
  · intro ordered
    obtain ⟨ascending, parts⟩ := ordered.fields
    exact ⟨(Entries.ascending_map_iff _ _).1 ascending,
      fun field member => parts _ (List.mem_map_of_mem member)⟩
  · rintro ⟨ascending, parts⟩
    refine .table ((Entries.ascending_map_iff _ _).2 ascending) fun field member => ?_
    obtain ⟨held, inside, rfl⟩ := List.mem_map.1 member
    exact parts held inside

section Fields

variable {fields inner changed : List (String × Node)} {key : String} {origin : TableOrigin}

theorem ordered_table (inOrder : InOrder fields) :
    (Node.table origin fields).toDocument.Ordered := by
  rw [Node.toDocument]
  exact ordered_fieldDocuments_iff.2 inOrder

/-- A list counts as in order, as its tables are never laid over others. -/
theorem ordered_tables (items : List Node) : (Node.tables items).toDocument.Ordered := by
  rw [Node.toDocument]
  exact .other rfl

theorem InOrder.of_get? (inOrder : InOrder fields)
    (held : Entries.get? key fields = some (.table origin inner)) : InOrder inner := by
  have ordered := inOrder.2 _ (Entries.mem_of_get?_eq_some held)
  rw [Node.toDocument] at ordered
  exact ordered_fieldDocuments_iff.1 ordered

theorem InOrder.insert (inOrder : InOrder fields) {node : Node}
    (ordered : node.toDocument.Ordered) : InOrder (Entries.insert key node fields) := by
  constructor
  · exact Entries.ascending_insert key node fields inOrder.1
  · intro field member
    rcases Entries.mem_insert key node fields field member with rfl | inside
    · exact ordered
    · exact inOrder.2 field inside

/-- A change, if it is made, leaves fields in order. -/
def KeepsOrder (change : Change) : Prop :=
  ∀ origin fields changed, InOrder fields → change origin fields = some changed →
    InOrder changed

theorem keepsOrder_changeAt {change : Change} (keeps : KeepsOrder change)
    (passing : TableOrigin) (path : List String) :
    KeepsOrder (changeAt passing change path) := by
  induction path with
  | nil =>
      exact keeps
  | cons key path inductionHypothesis =>
      intro origin fields changed inOrder made
      rw [changeAt] at made
      -- The way leads through no table yet, a value, a table, or the last table of a list.
      split at made
      · obtain ⟨inner, below, rfl⟩ := Option.map_eq_some_iff.1 made
        exact inOrder.insert (ordered_table (inductionHypothesis _ _ _ inOrder_nil below))
      · cases made
      · rename_i held
        split at made
        · cases made
        · obtain ⟨inner, below, rfl⟩ := Option.map_eq_some_iff.1 made
          have inOrderInner := inductionHypothesis _ _ _ (inOrder.of_get? held) below
          exact inOrder.insert (ordered_table inOrderInner)
      · split at made
        · obtain ⟨inner, _, rfl⟩ := Option.map_eq_some_iff.1 made
          exact inOrder.insert (ordered_tables _)
        · cases made

theorem keepsOrder_bind (path : KeyPath) {document : Document} (ordered : document.Ordered) :
    KeepsOrder (bind path document) := by
  intro origin fields changed inOrder made
  unfold bind at made
  split at made
  · cases made
  · split at made
    · cases made
    · cases made
      refine inOrder.insert ?_
      rw [Node.toDocument]
      exact ordered

/-- What each step leaves in order is in order in the end. -/
theorem inOrder_foldlM {item : Type}
    {step : List (String × Node) → item → Option (List (String × Node))} {items : List item}
    (keeps : ∀ part ∈ items, ∀ fields changed, InOrder fields →
      step fields part = some changed → InOrder changed)
    (inOrder : InOrder fields) (made : items.foldlM step fields = some changed) :
    InOrder changed := by
  induction items generalizing fields with
  | nil =>
      cases made
      exact inOrder
  | cons part rest inductionHypothesis =>
      rw [List.foldlM_cons] at made
      obtain ⟨next, first, later⟩ := Option.bind_eq_some_iff.1 made
      have inOrderNext := keeps part List.mem_cons_self fields next inOrder first
      exact inductionHypothesis (fun other member => keeps other (List.mem_cons_of_mem _ member))
        inOrderNext later

end Fields

/-! ## Sections -/

/-- The values of entries are in order. -/
def EntriesOrdered (entries : List (KeyPath × Document)) : Prop :=
  ∀ entry ∈ entries, entry.2.Ordered

theorem entriesOrdered_nil : EntriesOrdered [] :=
  List.forall_mem_nil _

section Sections

variable {entries : List (KeyPath × Document)} {fields changed : List (String × Node)}

theorem inOrder_defineAll (ordered : EntriesOrdered entries) (inOrder : InOrder fields)
    (made : defineAll entries fields = some changed) : InOrder changed := by
  refine inOrder_foldlM (fun entry member held after inOrderHeld defined => ?_) inOrder made
  have keeps := keepsOrder_changeAt (keepsOrder_bind entry.1 (ordered entry member)) .dotted
    entry.1.parents
  exact keeps _ _ _ inOrderHeld defined

theorem keepsOrder_fillTable (key : String) (ordered : EntriesOrdered entries) :
    KeepsOrder (fillTable key entries) := by
  intro origin fields changed inOrder made
  unfold fillTable at made
  dsimp only at made
  split at made
  · obtain ⟨inner, defined, rfl⟩ := Option.map_eq_some_iff.1 made
    exact inOrder.insert (ordered_table (inOrder_defineAll ordered inOrder_nil defined))
  · rename_i held
    obtain ⟨inner, defined, rfl⟩ := Option.map_eq_some_iff.1 made
    exact inOrder.insert
      (ordered_table (inOrder_defineAll ordered (inOrder.of_get? held) defined))
  · cases made

theorem keepsOrder_appendTable (key : String) (entries : List (KeyPath × Document)) :
    KeepsOrder (appendTable key entries) := by
  intro origin fields changed inOrder made
  unfold appendTable at made
  dsimp only at made
  split at made
  · obtain ⟨inner, _, rfl⟩ := Option.map_eq_some_iff.1 made
    exact inOrder.insert (ordered_tables _)
  · obtain ⟨inner, _, rfl⟩ := Option.map_eq_some_iff.1 made
    exact inOrder.insert (ordered_tables _)
  · cases made

theorem inOrder_addSection {part : Section} (ordered : EntriesOrdered part.entries)
    (inOrder : InOrder fields) (made : addSection fields part = some changed) :
    InOrder changed := by
  unfold addSection at made
  split at made
  · exact inOrder_defineAll ordered inOrder made
  · rename_i path inList _
    have keeps : KeepsOrder
        (if inList then appendTable path.last part.entries
          else fillTable path.last part.entries) := by
      split
      · exact keepsOrder_appendTable path.last part.entries
      · exact keepsOrder_fillTable path.last ordered
    exact keepsOrder_changeAt keeps .implied path.parents _ _ _ inOrder made

theorem ordered_ofSections? {sections : List Section} {document : Document}
    (ordered : ∀ part ∈ sections, EntriesOrdered part.entries)
    (read : ofSections? sections = some document) : document.Ordered := by
  obtain ⟨fields, made, rfl⟩ := Option.map_eq_some_iff.1 read
  refine ordered_fieldDocuments_iff.2 (inOrder_foldlM ?_ inOrder_nil made)
  intro part member held after inOrder added
  exact inOrder_addSection (ordered part member) inOrder added

theorem ordered_ofInline? {document : Document} (ordered : EntriesOrdered entries)
    (read : ofInline? entries = some document) : document.Ordered := by
  obtain ⟨fields, made, rfl⟩ := Option.map_eq_some_iff.1 read
  exact ordered_fieldDocuments_iff.2 (inOrder_defineAll ordered inOrder_nil made)

end Sections

/-! ## Values -/

theorem ordered_readNumber {characters rest : List Char} {value : Document}
    (read : readNumber characters = some (value, rest)) : value.Ordered := by
  unfold readNumber at read
  split at read
  · cases read
    refine .table (List.pairwise_singleton _ _) fun field member => ?_
    rw [List.mem_singleton.1 member]
    exact .other rfl
  · split at read
    · cases read
      exact .other rfl
    · obtain ⟨⟨number, after⟩, _, same⟩ := Option.map_eq_some_iff.1 read
      cases same
      exact .other rfl

/-- Every value that is read with as much fuel is in order. -/
def ReadsOrderedValues (fuel : Nat) : Prop :=
  ∀ depth characters value rest, readValue fuel depth characters = some (value, rest) →
    value.Ordered

/-- So is every value of the entries that are read with as much fuel. -/
def ReadsOrderedEntries (fuel : Nat) : Prop :=
  ∀ depth characters entries rest,
    readInlineEntries fuel depth characters = some (entries, rest) → EntriesOrdered entries

theorem readsOrderedValues_succ {fuel : Nat} (readsEntries : ReadsOrderedEntries fuel) :
    ReadsOrderedValues (fuel + 1) := by
  intro depth characters value rest read
  unfold readValue at read
  split at read
  · obtain ⟨_, _, same⟩ := Option.map_eq_some_iff.1 read
    cases same
    exact .other rfl
  · obtain ⟨_, _, same⟩ := Option.map_eq_some_iff.1 read
    cases same
    exact .other rfl
  · cases read
    exact .other rfl
  · cases read
    exact .other rfl
  · split at read
    · cases read
    · obtain ⟨_, _, same⟩ := Option.map_eq_some_iff.1 read
      cases same
      exact .other rfl
  · -- A table on one line, without entries or with those that are read.
    obtain ⟨_, _, read⟩ := Option.bind_eq_some_iff.1 read
    dsimp only at read
    split at read
    · obtain ⟨_, nothing, read⟩ := Option.bind_eq_some_iff.1 read
      cases nothing
      obtain ⟨table, made, same⟩ := Option.bind_eq_some_iff.1 read
      cases same
      exact ordered_ofInline? entriesOrdered_nil made
    · obtain ⟨⟨entries, after⟩, entriesRead, read⟩ := Option.bind_eq_some_iff.1 read
      obtain ⟨table, made, same⟩ := Option.bind_eq_some_iff.1 read
      cases same
      exact ordered_ofInline? (readsEntries _ _ _ _ entriesRead) made
  · exact ordered_readNumber read

theorem readsOrderedEntries_succ {fuel : Nat} (readsValues : ReadsOrderedValues fuel)
    (readsEntries : ReadsOrderedEntries fuel) : ReadsOrderedEntries (fuel + 1) := by
  intro depth characters entries rest read
  unfold readInlineEntries at read
  obtain ⟨⟨key, afterKey⟩, _, read⟩ := Option.bind_eq_some_iff.1 read
  obtain ⟨beforeValue, _, read⟩ := Option.bind_eq_some_iff.1 read
  obtain ⟨⟨value, afterValue⟩, valueRead, read⟩ := Option.bind_eq_some_iff.1 read
  have ordered := readsValues _ _ _ _ valueRead
  dsimp only at read
  split at read
  · obtain ⟨⟨others, after⟩, othersRead, same⟩ := Option.bind_eq_some_iff.1 read
    cases same
    exact List.forall_mem_cons.2 ⟨ordered, readsEntries _ _ _ _ othersRead⟩
  · cases read
    exact List.forall_mem_singleton.2 ordered
  · cases read

/-- Values that are read are in order; so are those of the entries of a table. -/
theorem readsOrdered (fuel : Nat) : ReadsOrderedValues fuel ∧ ReadsOrderedEntries fuel := by
  induction fuel with
  | zero =>
      constructor
      · intro depth characters value rest read
        unfold readValue at read
        cases read
      · intro depth characters entries rest read
        unfold readInlineEntries at read
        cases read
  | succ fuel inductionHypothesis =>
      obtain ⟨readsValues, readsEntries⟩ := inductionHypothesis
      exact ⟨readsOrderedValues_succ readsEntries,
        readsOrderedEntries_succ readsValues readsEntries⟩

/-! ## Statements -/

/-- The value of an entry is in order. -/
def Statement.Ordered : Statement → Prop
  | entry _ document => document.Ordered
  | header _ _ => True

theorem ordered_readStatement {characters rest : List Char} {statement : Statement}
    (read : readStatement characters = some (statement, rest)) : statement.Ordered := by
  unfold readStatement at read
  split at read
  · obtain ⟨_, _, read⟩ := Option.bind_eq_some_iff.1 read
    obtain ⟨_, _, read⟩ := Option.bind_eq_some_iff.1 read
    obtain ⟨_, _, same⟩ := Option.bind_eq_some_iff.1 read
    cases same
    trivial
  · obtain ⟨_, _, read⟩ := Option.bind_eq_some_iff.1 read
    obtain ⟨_, _, read⟩ := Option.bind_eq_some_iff.1 read
    obtain ⟨_, _, same⟩ := Option.bind_eq_some_iff.1 read
    cases same
    trivial
  · obtain ⟨_, _, read⟩ := Option.bind_eq_some_iff.1 read
    obtain ⟨_, _, read⟩ := Option.bind_eq_some_iff.1 read
    obtain ⟨⟨value, after⟩, valueRead, read⟩ := Option.bind_eq_some_iff.1 read
    obtain ⟨_, _, same⟩ := Option.bind_eq_some_iff.1 read
    cases same
    exact (readsOrdered _).1 _ _ _ _ valueRead

theorem ordered_readStatements {fuel : Nat} {characters : List Char}
    {statements : List Statement} (read : readStatements fuel characters = some statements) :
    ∀ statement ∈ statements, statement.Ordered := by
  induction fuel generalizing characters statements with
  | zero =>
      cases read
  | succ fuel inductionHypothesis =>
      unfold readStatements at read
      split at read
      · cases read
        exact List.forall_mem_nil _
      · obtain ⟨_, _, read⟩ := Option.bind_eq_some_iff.1 read
        exact inductionHypothesis read
      · exact inductionHypothesis read
      · exact inductionHypothesis read
      · obtain ⟨⟨statement, rest⟩, first, read⟩ := Option.bind_eq_some_iff.1 read
        obtain ⟨others, later, same⟩ := Option.bind_eq_some_iff.1 read
        cases same
        exact List.forall_mem_cons.2 ⟨ordered_readStatement first, inductionHypothesis later⟩

/-- So are the entries before the first header, and those of every section. -/
theorem ordered_foldr_addTo {statements : List Statement}
    (ordered : ∀ statement ∈ statements, statement.Ordered) :
    EntriesOrdered (statements.foldr Statement.addTo ([], [])).1 ∧
      ∀ part ∈ (statements.foldr Statement.addTo ([], [])).2, EntriesOrdered part.entries := by
  induction statements with
  | nil =>
      exact ⟨entriesOrdered_nil, List.forall_mem_nil _⟩
  | cons statement rest inductionHypothesis =>
      obtain ⟨here, later⟩ := List.forall_mem_cons.1 ordered
      obtain ⟨entries, sections⟩ := inductionHypothesis later
      cases statement with
      | entry path document =>
          exact ⟨List.forall_mem_cons.2 ⟨here, entries⟩, sections⟩
      | header path inList =>
          exact ⟨entriesOrdered_nil, List.forall_mem_cons.2 ⟨entries, sections⟩⟩

/-- What a configuration file describes is in order. -/
theorem ordered_parse {source : String} {document : Document}
    (read : parse source = some document) : document.Ordered := by
  obtain ⟨statements, statementsRead, made⟩ := Option.bind_eq_some_iff.1 read
  obtain ⟨leading, others⟩ := ordered_foldr_addTo (ordered_readStatements statementsRead)
  exact ordered_ofSections? (List.forall_mem_cons.2 ⟨leading, others⟩) made

end Toml
end AssetExchange
