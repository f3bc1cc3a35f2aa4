import AssetExchange.Catalogue.Plugin
import AssetExchange.Proofs.Batch.Transcript
import AssetExchange.Proofs.Desk.PagerUses
import AssetExchange.Proofs.Pager.Record

/-!
# The pagers of a catalogue

A catalogue counts the pagers that were closed, and the count is all of it that its pagers
change.  What a catalogue does with a query does not depend on the count
(`Catalogue.make_withClosed`), and a pager answers without looking at the catalogue at all
(`Catalogue.Blind`).
-/

namespace AssetExchange
namespace Catalogue

variable {alpha beta item : Type}

def withClosed (count : Nat) (catalogue : Catalogue) : Catalogue :=
  { catalogue with closedPagers := count }

theorem closedPagers_served (call : PagerCall) (pager : CataloguePager)
    (catalogue : Catalogue) :
    (call.served plugin pager catalogue).closedPagers =
      catalogue.closedPagers + if call = .close then 1 else 0 := by
  cases call <;> rfl

/-! ## Queries -/

theorem reportItems_withClosed {read : item → Catalogue → ElementOutcome alpha}
    (count : Nat)
    (blind : ∀ element catalogue,
      read element (withClosed count catalogue) = read element catalogue)
    (entries : List (item × Nat)) (catalogue : Catalogue) :
    reportItems (reading read) entries (withClosed count catalogue) =
      (reportItems (reading read) entries catalogue).mapResult
        fun reply => reply.mapState (withClosed count) := by
  induction entries with
  | nil =>
      rfl
  | cons entry rest inductionHypothesis =>
      obtain ⟨element, index⟩ := entry
      simp only [reportItems, reading, blind]
      cases read element catalogue with
      | ok value =>
          simp only [BatchRun.mapResult]
          rw [← inductionHypothesis]
      | error error =>
          simp only [BatchRun.mapResult]
          congr 1
          funext flow
          cases flow with
          | proceed =>
              exact inductionHypothesis
          | stop =>
              rfl

theorem runBatch_withClosed (call : Call) (items : List item)
    {read : item → Catalogue → ElementOutcome alpha} (count : Nat)
    (blind : ∀ element catalogue,
      read element (withClosed count catalogue) = read element catalogue)
    (catalogue : Catalogue) :
    runBatch call items (reading read) (withClosed count catalogue) =
      (runBatch call items (reading read) catalogue).mapResult
        fun reply => reply.mapState (withClosed count) := by
  cases failure : catalogue.callFailure with
  | some error =>
      have failureCounted : (catalogue.recordCall call).callFailure = some error := failure
      have failureClosed : ((withClosed count catalogue).recordCall call).callFailure =
          some error := failure
      simp only [runBatch, failureCounted, failureClosed]
      rfl
  | none =>
      have noFailureCounted : (catalogue.recordCall call).callFailure = none := failure
      have noFailureClosed : ((withClosed count catalogue).recordCall call).callFailure =
          none := failure
      simp only [runBatch, noFailureCounted, noFailureClosed]
      exact reportItems_withClosed count blind _ (catalogue.recordCall call)

/-- The count changes nothing about a query, and a query leaves the count alone. -/
theorem make_withClosed (query : PagerQuery) (count : Nat) (catalogue : Catalogue) :
    query.make plugin (withClosed count catalogue) =
      (query.make plugin catalogue).mapResult
        fun reply => reply.mapState (withClosed count) := by
  cases query with
  | toMany references relationship resultTraits pageSize access context =>
      exact runBatch_withClosed _ _ count (fun _ _ => rfl) catalogue
  | byMany reference relationships resultTraits pageSize access context =>
      exact runBatch_withClosed _ _ count (fun _ _ => rfl) catalogue

theorem closedPagers_make (query : PagerQuery)
    (answer : List (Report CataloguePager) → Flow) (catalogue : Catalogue) :
    ((query.make plugin catalogue).transcript answer []).2.state.closedPagers =
      catalogue.closedPagers := by
  have same := make_withClosed query catalogue.closedPagers catalogue
  have run : query.make plugin catalogue = _ := same
  rw [run, BatchRun.transcript_mapResult]
  rfl

/-! ## Pagers and walks -/

/-- A request that is answered without a look at the catalogue, and that leaves everything
but the count alone. -/
def Blind (request : Request Catalogue alpha) : Prop :=
  ∃ value, ∀ catalogue, (request catalogue).answer = value ∧
    withClosed 0 (request catalogue).state = withClosed 0 catalogue

theorem blind_answer (value : alpha) : Blind (Request.answer value) :=
  ⟨value, fun _ => ⟨rfl, rfl⟩⟩

theorem Blind.map {request : Request Catalogue alpha} (blind : Blind request)
    (change : alpha → beta) : Blind fun catalogue => (request catalogue).map change := by
  obtain ⟨value, answers⟩ := blind
  refine ⟨change value, fun catalogue => ?_⟩
  obtain ⟨sameAnswer, sameState⟩ := answers catalogue
  exact ⟨congrArg change sameAnswer, sameState⟩

theorem Blind.bind {request : Request Catalogue alpha} (blind : Blind request)
    {next : alpha → Request Catalogue beta} (later : ∀ value, Blind (next value)) :
    Blind fun catalogue => (request catalogue).bind next := by
  obtain ⟨value, answers⟩ := blind
  obtain ⟨last, answersLater⟩ := later value
  refine ⟨last, fun catalogue => ?_⟩
  obtain ⟨sameAnswer, sameState⟩ := answers catalogue
  obtain ⟨sameLast, sameAfter⟩ := answersLater (request catalogue).state
  simp only [Reply.bind, sameAnswer]
  exact ⟨sameLast, sameAfter.trans sameState⟩

theorem blind_fetch (pager : CataloguePager) : Blind (Pages.fetch plugin pager) :=
  (blind_answer (pager, Except.ok pager.page)).map _

theorem blind_next (walk : Pages CataloguePager) : Blind (Pages.next plugin walk) := by
  obtain ⟨pager, started, finished⟩ := walk
  cases finished with
  | true =>
      exact blind_answer _
  | false =>
      cases started with
      | false =>
          exact blind_fetch pager
      | true =>
          simp only [Pages.next, Bool.false_eq_true, ↓reduceIte]
          apply (blind_answer (pager, Except.ok pager.hasNext)).bind
          rintro ⟨asked, error | _ | _⟩
          · exact blind_answer _
          · exact blind_answer _
          · apply (blind_answer (asked.next, Except.ok ())).bind
            rintro ⟨moved, error | _⟩
            · exact blind_answer _
            · exact blind_fetch moved

theorem blind_take (limit : Nat) (walk : Pages CataloguePager) :
    Blind (Pages.take plugin limit walk) := by
  induction limit generalizing walk with
  | zero =>
      exact blind_answer _
  | succ limit inductionHypothesis =>
      apply (blind_next walk).bind
      rintro ⟨after, item | item⟩
      · exact blind_answer _
      · exact (inductionHypothesis after).map _

theorem blind_close (pager : CataloguePager) : Blind (plugin.pagerClose pager) :=
  ⟨(), fun _ => ⟨rfl, rfl⟩⟩

end Catalogue
end AssetExchange
