import AssetExchange.Config.Document
import AssetExchange.Proofs.Json.Faithful

/-!
# Layers of documents

What a document holds is told by paths of keys (`Document.valueAt?`).  A document that is laid
over another one hides a path where it has anything but a table on the way; on a path that is
open in this sense (`OpenTo`) it prevails wherever it holds something, and where both hold
tables these are laid over one another in turn (`valueAt?_merge`).

Tables keep their fields in ascending order at every level (`Ordered`).
-/

namespace AssetExchange
namespace Document

/-! ## Paths -/

def isTable : Document → Bool
  | table _ => true
  | _ => false

def valueAt? : List String → Document → Option Document
  | [], document => some document
  | key :: path, document => (document.field? key).bind (valueAt? path)

/-- There is nothing but tables on the way to the end of a path. -/
def OpenTo (path : List String) (document : Document) : Prop :=
  ∀ before, before <+: path → before ≠ path → ∀ value,
    document.valueAt? before = some value → value.isTable = true

theorem exists_table {document : Document} (isTable : document.isTable = true) :
    ∃ fields, document = table fields := by
  cases document with
  | table fields =>
      exact ⟨fields, rfl⟩
  | _ =>
      cases isTable

theorem field?_of_not_table {document : Document} (other : document.isTable = false)
    (key : String) : document.field? key = none := by
  cases document with
  | table fields =>
      cases other
  | _ =>
      rfl

theorem valueAt?_append (path rest : List String) (document : Document) :
    document.valueAt? (path ++ rest) = (document.valueAt? path).bind (valueAt? rest) := by
  induction path generalizing document with
  | nil =>
      rfl
  | cons key path inductionHypothesis =>
      rw [List.cons_append, valueAt?, valueAt?, Option.bind_assoc]
      congr 1
      funext part
      exact inductionHypothesis part

theorem OpenTo.isTable {key : String} {path : List String} {document : Document}
    (openTo : document.OpenTo (key :: path)) : document.isTable = true :=
  openTo [] List.nil_prefix (List.cons_ne_nil key path).symm document rfl

theorem OpenTo.tail {key : String} {path : List String} {document part : Document}
    (openTo : document.OpenTo (key :: path)) (held : document.field? key = some part) :
    part.OpenTo path := by
  intro before beginning different value found
  apply openTo (key :: before)
  · exact List.cons_prefix_cons.2 ⟨rfl, beginning⟩
  · intro same
    exact different (List.cons.inj same).2
  · rw [valueAt?, held]
    exact found

/-! ## Documents in order -/

/-- The fields of a table are in ascending order, and so are those of the tables in it. -/
inductive Ordered : Document → Prop
  | table {fields : List (String × Document)} (ascending : Entries.Ascending fields)
      (parts : ∀ field ∈ fields, Ordered field.2) : Ordered (table fields)
  | other {document : Document} (other : document.isTable = false) : Ordered document

theorem ordered_empty : Ordered empty :=
  .table Entries.ascending_nil fun _ member => nomatch member

theorem Ordered.fields {fields : List (String × Document)}
    (ordered : Ordered (.table fields)) :
    Entries.Ascending fields ∧ ∀ field ∈ fields, Ordered field.2 := by
  cases ordered with
  | table ascending parts =>
      exact ⟨ascending, parts⟩
  | other other =>
      cases other

theorem Ordered.field {document part : Document} {key : String}
    (ordered : document.Ordered) (held : document.field? key = some part) :
    part.Ordered := by
  cases ordered with
  | table ascending parts =>
      exact parts (key, part) (Entries.mem_of_get?_eq_some held)
  | other other =>
      rw [field?_of_not_table other] at held
      cases held

theorem ordered_ofFields {fields : List (String × Document)}
    (parts : ∀ field ∈ fields, Ordered field.2) : Ordered (ofFields fields) :=
  .table (Entries.ascending_ofList fields) fun field member =>
    parts field (Entries.mem_of_mem_ofList member)

theorem ordered_atPath {value : Document} (ordered : value.Ordered) (path : List String) :
    (atPath value path).Ordered := by
  induction path with
  | nil =>
      exact ordered
  | cons key path inductionHypothesis =>
      refine .table (List.pairwise_singleton _ _) fun field member => ?_
      rw [List.mem_singleton.1 member]
      exact inductionHypothesis

/-! ## One document over another -/

/-- What is left of a part after another one was laid over it, if there are such parts. -/
def overlay : Option Document → Option Document → Option Document
  | lower, none => lower
  | none, some upper => some upper
  | some lower, some upper => some (merge lower upper)

theorem merge_of_not_table {lower upper : Document}
    (other : lower.isTable = false ∨ upper.isTable = false) : merge lower upper = upper := by
  cases lower with
  | table lowerFields =>
      cases upper with
      | table upperFields =>
          rcases other with other | other <;> cases other
      | _ =>
          rw [merge]
          simp
  | _ =>
      rw [merge]
      simp

theorem isTable_merge {upper : Document} (isTable : upper.isTable = true) (lower : Document) :
    (merge lower upper).isTable = true := by
  obtain ⟨fields, rfl⟩ := exists_table isTable
  cases lower with
  | table lowerFields =>
      rw [merge]
      rfl
  | _ =>
      rw [merge_of_not_table (.inl rfl)]
      rfl

theorem isTable_overlay (lower : Option Document) {upper : Document}
    (isTable : upper.isTable = true) :
    ∃ value, overlay lower (some upper) = some value ∧ value.isTable = true := by
  cases lower with
  | none =>
      exact ⟨upper, rfl, isTable⟩
  | some lower =>
      exact ⟨_, rfl, isTable_merge isTable lower⟩

theorem get?_mergeFields {lower upper : List (String × Document)}
    (ascending : Entries.Ascending lower) (ascendingUpper : Entries.Ascending upper)
    (key : String) :
    Entries.get? key (mergeFields lower upper) =
      overlay (Entries.get? key lower) (Entries.get? key upper) := by
  induction upper generalizing lower with
  | nil =>
      rw [mergeFields_nil]
      rfl
  | cons field rest inductionHypothesis =>
      obtain ⟨name, value⟩ := field
      obtain ⟨below, restAscending⟩ := (Entries.ascending_cons_iff _ _).1 ascendingUpper
      rw [mergeFields, inductionHypothesis (Entries.ascending_insert _ _ _ ascending)
        restAscending, Entries.get?_insert _ _ _ _ ascending, Entries.get?]
      by_cases same : name = key
      · subst same
        rw [if_pos rfl, if_pos rfl, Entries.get?_eq_none_of_below below]
        cases Entries.get? name lower <;> rfl
      · rw [if_neg same, if_neg same]

theorem field?_merge {lower upper : List (String × Document)}
    (ascending : Entries.Ascending lower) (ascendingUpper : Entries.Ascending upper)
    (key : String) :
    (merge (.table lower) (.table upper)).field? key =
      overlay (Entries.get? key lower) (Entries.get? key upper) := by
  rw [merge]
  exact get?_mergeFields ascending ascendingUpper key

theorem ordered_merge {lower upper : Document} (ordered : lower.Ordered)
    (orderedUpper : upper.Ordered) : (merge lower upper).Ordered := by
  induction orderedUpper generalizing lower with
  | other other =>
      rw [merge_of_not_table (.inr other)]
      exact .other other
  | @table fields ascending parts inductionHypothesis =>
      cases ordered with
      | other other =>
          rw [merge_of_not_table (.inl other)]
          exact .table ascending parts
      | @table lowerFields ascendingLower lowerParts =>
          rw [merge]
          clear ascending
          induction fields generalizing lowerFields with
          | nil =>
              rw [mergeFields_nil]
              exact .table ascendingLower lowerParts
          | cons field rest laterHypothesis =>
              obtain ⟨name, value⟩ := field
              rw [mergeFields]
              apply laterHypothesis
              · intro other member
                exact parts other (List.mem_cons_of_mem _ member)
              · intro other member
                exact inductionHypothesis other (List.mem_cons_of_mem _ member)
              · exact Entries.ascending_insert _ _ _ ascendingLower
              · intro entry member
                rcases Entries.mem_insert _ _ _ _ member with rfl | earlier
                · cases held : Entries.get? name lowerFields with
                  | none =>
                      exact parts _ List.mem_cons_self
                  | some part =>
                      exact inductionHypothesis _ List.mem_cons_self
                        (lowerParts _ (Entries.mem_of_get?_eq_some held))
                · exact lowerParts entry earlier

/-- On an open path the upper document prevails where it holds something. -/
theorem valueAt?_merge {lower upper : Document} (ordered : lower.Ordered)
    (orderedUpper : upper.Ordered) {path : List String} (openTo : upper.OpenTo path) :
    (merge lower upper).valueAt? path =
      overlay (lower.valueAt? path) (upper.valueAt? path) := by
  induction path generalizing lower upper with
  | nil =>
      rfl
  | cons key path inductionHypothesis =>
      obtain ⟨fields, rfl⟩ := exists_table openTo.isTable
      cases ordered with
      | other other =>
          rw [merge_of_not_table (.inl other), valueAt?, valueAt?, field?_of_not_table other]
          cases (field? key (.table fields)).bind (valueAt? path) <;> rfl
      | @table lowerFields ascending parts =>
          rw [valueAt?, valueAt?, valueAt?,
            field?_merge ascending orderedUpper.fields.1 key]
          change (overlay _ (field? key (.table fields))).bind _ =
            overlay ((field? key (.table lowerFields)).bind _) _
          cases upperPart : field? key (.table fields) with
          | none =>
              rfl
          | some upperValue =>
              change (overlay (field? key (.table lowerFields)) _).bind _ = _
              cases lowerPart : field? key (.table lowerFields) with
              | none =>
                  change upperValue.valueAt? path = overlay none (upperValue.valueAt? path)
                  cases upperValue.valueAt? path <;> rfl
              | some lowerValue =>
                  exact inductionHypothesis
                    (Ordered.field (.table ascending parts) lowerPart)
                    (orderedUpper.field upperPart) (openTo.tail upperPart)

/-! ## Single values -/

theorem valueAt?_atPath_append (value : Document) (path rest : List String) :
    (atPath value path).valueAt? (path ++ rest) = value.valueAt? rest := by
  induction path with
  | nil =>
      rfl
  | cons key path inductionHypothesis =>
      rw [List.cons_append, valueAt?, atPath, field?, fields, Entries.get?, if_pos rfl]
      exact inductionHypothesis

theorem valueAt?_atPath_before (value : Document) (path more : List String) :
    (atPath value (path ++ more)).valueAt? path = some (atPath value more) := by
  induction path with
  | nil =>
      rfl
  | cons key path inductionHypothesis =>
      rw [List.cons_append, valueAt?, atPath, field?, fields, Entries.get?, if_pos rfl]
      exact inductionHypothesis

theorem isTable_atPath (value : Document) {path : List String} (below : path ≠ []) :
    (atPath value path).isTable = true := by
  cases path with
  | nil =>
      exact absurd rfl below
  | cons key path =>
      rfl

theorem valueAt?_atPath_apart (value : Document) {own path : List String}
    (notBelow : ¬ own <+: path) (notAbove : ¬ path <+: own) :
    (atPath value own).valueAt? path = none := by
  induction own generalizing path with
  | nil =>
      exact absurd List.nil_prefix notBelow
  | cons key own inductionHypothesis =>
      cases path with
      | nil =>
          exact absurd List.nil_prefix notAbove
      | cons first path =>
          rw [valueAt?, atPath, field?, fields, Entries.get?]
          by_cases same : key = first
          · subst same
            rw [List.cons_prefix_cons] at notBelow notAbove
            rw [if_pos rfl]
            exact inductionHypothesis (fun below => notBelow ⟨rfl, below⟩)
              fun above => notAbove ⟨rfl, above⟩
          · rw [if_neg same]
            rfl

/-- A single value hides no path but those that lead on from it. -/
theorem openTo_atPath (value : Document) {own path : List String}
    (notAbove : own <+: path → own = path) : (atPath value own).OpenTo path := by
  intro before beginning different found held
  by_cases above : before <+: own
  · obtain ⟨more, rfl⟩ := above
    rw [valueAt?_atPath_before] at held
    cases held
    apply isTable_atPath
    rintro rfl
    rw [List.append_nil] at notAbove
    exact different (notAbove beginning)
  · by_cases below : own <+: before
    · have same := notAbove (below.trans beginning)
      subst same
      exact absurd beginning above
    · rw [valueAt?_atPath_apart value below above] at held
      cases held

end Document
end AssetExchange
