import AssetExchange.Proofs.Catalogue.Publishing
import AssetExchange.Proofs.Pager.Paging

/-!
# Two queries for related references

A catalogue is asked for one relationship of many references or for many relationships of
one reference.  The batches of the two queries have different elements, but what is said of
a reference and a relationship is the same in both: the error of the reference, or a pager
over the pages of the list that the relationship selects for it (`pagedOutcome`).

`RelationshipLaw` says this of a reference and a relationship wherever they stand in the
batches; a table of all of them has the answers to the first query as its columns and those
to the second one as its rows.
-/

namespace AssetExchange

/-! ## What is reported of one element -/

/-- Of reports with different indices only one has the index of a report. -/
theorem filter_index_eq_singleton {alpha : Type} {reports : List (Report alpha)}
    (distinct : (reports.map Report.index).Nodup) {report : Report alpha}
    (member : report ∈ reports) :
    reports.filter (·.index = report.index) = [report] := by
  induction reports with
  | nil =>
      cases member
  | cons first rest inductionHypothesis =>
      obtain ⟨fresh, distinctRest⟩ := List.nodup_cons.1 distinct
      rcases List.mem_cons.1 member with rfl | later
      · rw [List.filter_cons_of_pos (by simp), List.cons.injEq, List.filter_eq_nil_iff]
        refine ⟨rfl, ?_⟩
        intro other among same
        exact fresh (List.mem_map.2 ⟨other, among, of_decide_eq_true same⟩)
      · have different : first.index ≠ report.index := fun same =>
          fresh (List.mem_map.2 ⟨report, later, same.symm⟩)
        rw [List.filter_cons_of_neg (by simpa using different)]
        exact inductionHypothesis distinctRest later

/-- A batch returns and reports this of one of its elements, and nothing else of that
element, when every error is answered by `proceed`. -/
structure ReportsOnce {alpha tau : Type} (run : BatchRun alpha (Reply tau (Outcome Unit)))
    (index : Nat) (outcome : ElementOutcome alpha) : Prop where
  reported : (run.transcript (fun _ => .proceed) []).1.filter (·.index = index) =
    [⟨index, outcome⟩]
  returned : (run.transcript (fun _ => .proceed) []).2.answer = .ok ()

/-- In whatever order a catalogue reports, it reports of each element what it has to say
about it. -/
theorem BatchCall.reportsOnce_ask {alpha : Type} (call : BatchCall CataloguePager alpha)
    (passed : call.check = none) {manager : Manager Catalogue}
    (noFailure : manager.state.callFailure = none) {index : Nat}
    {outcome : ElementOutcome alpha}
    (said : (call.outcomes manager.state)[index]? = some outcome) :
    ReportsOnce (call.ask Catalogue.plugin manager) index outcome := by
  obtain ⟨kept, leftOut, split, ends, heard, returned⟩ :=
    call.tells_ask passed noFailure fun _ => .proceed
  have complete : call.reports manager.state = kept := by
    rw [reports, split, ends.leftOut_eq_nil (fun _ _ _ _ _ => rfl), List.append_nil]
  have among : ⟨index, outcome⟩ ∈ call.reports manager.state := by
    rw [reports, CallbackOrder.mem_arrange_iff]
    exact List.mem_map.2 ⟨(outcome, index), List.mem_zipIdx_iff_getElem?.2 said, rfl⟩
  have once :=
    filter_index_eq_singleton (call.exhaustive_reports manager.state).dutiful.nodup among
  constructor
  case reported =>
    rw [heard, ← complete]
    exact once
  case returned =>
    exact returned

namespace Catalogue

variable {catalogue first second : Catalogue} {reference : EntityReference}
  {relationship : TraitsData} {related : List EntityReference}

/-! ## The list that is selected -/

/-- Only one list is selected, and relationships with the same traits select the same
list. -/
theorem Selects.unique {other : TraitsData} {otherRelated : List EntityReference}
    (selects : catalogue.Selects reference relationship related)
    (otherSelects : catalogue.Selects reference other otherRelated)
    (sameTraits : other.traitSet = relationship.traitSet) : otherRelated = related := by
  have sameHas : ∀ trait, other.hasTrait trait = relationship.hasTrait trait := by
    intro trait
    rw [← TraitsData.contains_traitSet, sameTraits, TraitsData.contains_traitSet]
  cases selects with
  | @smallest trait _ among listed least =>
      cases otherSelects with
      | @smallest otherTrait _ otherAmong otherListed otherLeast =>
          rw [sameHas] at otherAmong
          rw [← sameHas] at among
          -- Of two different traits the smaller one would have no list.
          have notBelow : ¬ otherTrait < trait := by
            intro below
            rw [least otherTrait otherAmong below] at otherListed
            cases otherListed
          have notAbove : ¬ trait < otherTrait := by
            intro above
            rw [otherLeast trait among above] at listed
            cases listed
          have same : otherTrait = trait :=
            String.le_antisymm (String.not_lt.1 notAbove) (String.not_lt.1 notBelow)
          rw [same, listed] at otherListed
          exact (Option.some.inj otherListed).symm
      | unlisted none =>
          rw [← sameHas] at among
          rw [none trait among] at listed
          cases listed
  | unlisted none =>
      cases otherSelects with
      | @smallest otherTrait _ otherAmong otherListed _ =>
          rw [sameHas] at otherAmong
          rw [none otherTrait otherAmong] at otherListed
          cases otherListed
      | unlisted _ =>
          rfl

theorem related_eq_of_setUp_eq (same : first.setUp = second.setUp)
    (reference : EntityReference) (relationship : TraitsData) :
    first.related reference relationship = second.related reference relationship := by
  have sameRelations : first.relations = second.relations := (congrArg relations same :)
  rw [related, related, sameRelations]

/-! ## What is said about a reference and a relationship -/

/-- The error of a reference, or a pager at the first page of what is related to it. -/
def pagedOutcome (error : Option BatchElementError) (pageSize : Nat)
    (related : List EntityReference) : ElementOutcome CataloguePager :=
  match error with
  | some error => .error error
  | none => .ok ⟨chunks pageSize related, 0⟩

/-- What is said depends on the relationship and on the relations of the catalogue only
through the selected list. -/
theorem unlessError_pagerFor (selects : second.Selects reference relationship related)
    (same : first.setUp = second.setUp) (pageSize : Nat) :
    first.unlessError reference (.ok (first.pagerFor reference relationship pageSize)) =
      pagedOutcome (second.elementErrors.get? reference.text) pageSize related := by
  have selected : first.related reference relationship = related :=
    (related_eq_of_setUp_eq same reference relationship).trans
      (selects.unique (selects_related second reference relationship) rfl)
  rw [unlessError, pagerFor, selected, elementErrors_eq_of_setUp_eq same]
  cases second.elementErrors.get? reference.text <;> rfl

end Catalogue

open Catalogue

/-! ## The two queries -/

/-- What the two queries for related references say of a reference and a relationship. -/
structure RelationshipLaw (manager : Manager Catalogue) (reference : EntityReference)
    (relationship : TraitsData) : Prop where
  /-- The relationship selects a list, and every relationship with the same traits, whatever
  their properties are, selects the same list and no other. -/
  selected : ∃ related, manager.state.Selects reference relationship related ∧
    ∀ (other : TraitsData) (otherRelated : List EntityReference),
      other.traitSet = relationship.traitSet →
      manager.state.Selects reference other otherRelated → otherRelated = related
  /-- Wherever the reference and the relationship stand, both queries report of them the
  error of the reference, or else a pager over the same pages, which together are the
  selected list.  It does not matter what happened before. -/
  agree : ∀ (references : List EntityReference) (relationships : List TraitsData)
    (row column : Nat), references[row]? = some reference →
      relationships[column]? = some relationship →
    ∀ (related : List EntityReference) (pageSize : Nat),
      manager.state.Selects reference relationship related → 0 < pageSize →
      PagesOf related pageSize (chunks pageSize related) ∧
      ∀ (events : List (ManagerEvent CataloguePager (Option ApiError)))
        (resultTraits : TraitSet) (access : RelationsAccess) (context : Context),
        let later := runEvents plugin refusing events manager
        let outcome :=
          pagedOutcome (manager.state.elementErrors.get? reference.text) pageSize related
        ReportsOnce (Manager.relatedToMany plugin references relationship resultTraits pageSize
            access context later) row outcome ∧
          ReportsOnce (Manager.relatedByMany plugin reference relationships resultTraits
            pageSize access context later) column outcome

/-- A table of what a catalogue says of references and relationships is the same whether it
is asked column by column or row by row. -/
theorem relationship_queries_agree (manager : Manager Catalogue)
    (noFailure : manager.state.callFailure = none) (reference : EntityReference)
    (relationship : TraitsData) : RelationshipLaw manager reference relationship := by
  constructor
  case selected =>
    have selects := selects_related manager.state reference relationship
    refine ⟨_, selects, ?_⟩
    intro other otherRelated sameTraits otherSelects
    exact selects.unique otherSelects sameTraits
  case agree =>
    intro references relationships row column asked wanted related pageSize selects positive
    refine ⟨pagesOf_chunks positive related, ?_⟩
    intro events resultTraits access context later outcome
    have sameSetUp : later.state.setUp = manager.state.setUp := setUp_runEvents events manager
    have served : later.state.callFailure = none :=
      (callFailure_runEvents events manager).trans noFailure
    have passed : Manager.checkPageSize pageSize = none := if_neg (by omega)
    have said := unlessError_pagerFor selects sameSetUp pageSize
    constructor
    · apply BatchCall.reportsOnce_ask
        (.relatedToMany references relationship resultTraits pageSize access context) passed
        served
      rw [BatchCall.outcomes, List.getElem?_map, asked, Option.map_some, said]
    · apply BatchCall.reportsOnce_ask
        (.relatedByMany reference relationships resultTraits pageSize access context) passed
        served
      rw [BatchCall.outcomes, List.getElem?_map, wanted, Option.map_some, said]

/-- Asked for the albums of two references, and for two relationships of one reference, both
times in pages of two. -/
theorem relationship_queries_agree_albums :
    albums.state.callFailure = none ∧ 0 < 2 ∧
      ReportsOnce (Manager.relatedToMany plugin [⟨"b"⟩, ⟨"a"⟩] (bundle "album") .empty 2
          ⟨.read, List.mem_cons_self⟩ .empty albums) 1
        (.ok ⟨[[⟨"b"⟩, ⟨"c"⟩], [⟨"d"⟩]], 0⟩) ∧
      ReportsOnce (Manager.relatedByMany plugin ⟨"a"⟩ [bundle "album", bundle "song"] .empty 2
          ⟨.read, List.mem_cons_self⟩ .empty albums) 0
        (.ok ⟨[[⟨"b"⟩, ⟨"c"⟩], [⟨"d"⟩]], 0⟩) := by
  have noFailure : albums.state.callFailure = none := rfl
  have selects := selects_related albums.state ⟨"a"⟩ (bundle "album")
  have related : albums.state.related ⟨"a"⟩ (bundle "album") = [⟨"b"⟩, ⟨"c"⟩, ⟨"d"⟩] := by
    decide
  have pages : chunks 2 ([⟨"b"⟩, ⟨"c"⟩, ⟨"d"⟩] : List EntityReference) =
      [[⟨"b"⟩, ⟨"c"⟩], [⟨"d"⟩]] := by
    simp [chunks_cons]
  rw [related] at selects
  obtain ⟨_, agree⟩ := (relationship_queries_agree albums noFailure ⟨"a"⟩ (bundle "album")).agree
    [⟨"b"⟩, ⟨"a"⟩] [bundle "album", bundle "song"] 1 0 rfl rfl _ 2 selects (by omega)
  refine ⟨noFailure, by omega, ?_⟩
  rw [← pages]
  exact agree [] .empty ⟨.read, List.mem_cons_self⟩ .empty

end AssetExchange
