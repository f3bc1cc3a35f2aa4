import AssetExchange.Proofs.Manager.Uses

/-!
# What stays of a catalogue

Most of a catalogue is fixed when it is set up: its errors for references, its order,
its details, what its references begin with.  `Catalogue.setUp` is that part, and no
event changes it (`setUp_runEvents`).  A batch request changes nothing but counts and
entities (`BatchCall.view_ask`), so it leaves in place what a preparation brought about,
and so does every other request that does not prepare
(`asPrepared_and_entities_of_touched`).  The entities of a catalogue change in batch
requests alone (`setUp_and_entities_after`).

Whoever set a catalogue up may give it an error with which it refuses to be prepared
from then on (`Catalogue.refusing`); this is the one change that a catalogue undergoes
without being asked.
-/

namespace AssetExchange
namespace Catalogue

def setUp (catalogue : Catalogue) : Catalogue :=
  { catalogue with
    capabilities := []
    entities := .empty
    prepareFailure := none
    settings := .empty
    nextState := 0
    closedPagers := 0
    calls := .empty }

/-- The catalogue without anything that changes while it stays prepared. -/
def asPrepared (catalogue : Catalogue) : Catalogue :=
  { catalogue with
    entities := .empty
    nextState := 0
    closedPagers := 0
    calls := .empty }

def refusing (failure : Option ApiError) (catalogue : Catalogue) : Catalogue :=
  { catalogue with prepareFailure := failure }

end Catalogue

open Catalogue

/-! ## Batch requests -/

/-- Something to be seen of a catalogue that does not change when a request is counted or
an entity is put into it. -/
structure Catalogue.Steady {beta : Type} (view : Catalogue → beta) : Prop where
  recordCall : ∀ catalogue call, view (recordCall catalogue call) = view catalogue
  withEntity : ∀ catalogue reference data,
    view (withEntity catalogue reference data) = view catalogue

theorem steady_asPrepared : Steady asPrepared :=
  ⟨fun _ _ => rfl, fun _ _ _ => rfl⟩

theorem steady_setUp : Steady setUp :=
  ⟨fun _ _ => rfl, fun _ _ _ => rfl⟩

namespace BatchCall

variable {alpha beta : Type} {view : Catalogue → beta}

theorem view_foldl_leave (steady : Steady view) (call : BatchCall CataloguePager alpha)
    (reports : List (Report alpha)) (catalogue : Catalogue) :
    view (reports.foldl call.leave catalogue) = view catalogue := by
  induction reports generalizing catalogue with
  | nil =>
      rfl
  | cons report rest inductionHypothesis =>
      have left : view (call.leave catalogue report) = view catalogue := by
        unfold leave
        split
        · split
          · exact steady.withEntity _ _ _
          · rfl
        · rfl
      exact (inductionHypothesis _).trans left

/-- A batch request leaves in place what is steady, whether it fails as a whole or is
served. -/
theorem view_make (steady : Steady view) (call : BatchCall CataloguePager alpha)
    (answer : List (Report alpha) → Flow) (catalogue : Catalogue) :
    view ((call.make plugin catalogue).transcript answer []).2.state = view catalogue := by
  cases failure : catalogue.callFailure with
  | some error =>
      rw [call.make_of_callFailure failure]
      exact steady.recordCall catalogue call.name
  | none =>
      obtain ⟨kept, leftOut, _, _, heard⟩ := call.transcript_make answer catalogue failure
      rw [heard]
      exact (view_foldl_leave steady call kept _).trans (steady.recordCall _ _)

theorem view_ask (steady : Steady view) (call : BatchCall CataloguePager alpha)
    (answer : List (Report alpha) → Flow) (manager : Manager Catalogue) :
    view ((call.ask plugin manager).transcript answer []).2.state.state =
      view manager.state := by
  cases checked : call.check with
  | some fault =>
      rw [transcript_ask_of_check checked]
  | none =>
      rw [transcript_ask checked]
      exact view_make steady call answer manager.state

end BatchCall

/-! ## Other uses -/

theorem asPrepared_and_entities_of_touched {catalogue later : Catalogue}
    (touched : plugin.Touched catalogue later) :
    later.asPrepared = catalogue.asPrepared ∧ later.entities = catalogue.entities := by
  cases touched with
  | createChildState parent =>
      cases parent <;> exact ⟨rfl, rfl⟩
  | tokenForState held =>
      cases held <;> exact ⟨rfl, rfl⟩
  | stateFromToken token =>
      simp only [plugin, counting]
      cases tokenNumber? token <;> exact ⟨rfl, rfl⟩
  | _ =>
      exact ⟨rfl, rfl⟩

/-- Preparing takes settings and capabilities over, or fails. -/
theorem setUp_and_entities_prepare (host : Host) (settings : InfoDictionary)
    (catalogue : Catalogue) :
    (plugin.prepare host settings catalogue).state.setUp = catalogue.setUp ∧
      (plugin.prepare host settings catalogue).state.entities = catalogue.entities := by
  simp only [plugin, counting, Catalogue.prepare]
  split <;> exact ⟨rfl, rfl⟩

/-- A use that makes no batch request leaves the set-up and the entities alone. -/
theorem setUp_and_entities_after {use : ManagerUse CataloguePager}
    (plain : use.isBatch = false) (manager : Manager Catalogue) :
    (use.after plugin manager).state.setUp = manager.state.setUp ∧
      (use.after plugin manager).state.entities = manager.state.entities := by
  cases kind : use.prepares with
  | false =>
      obtain ⟨state, touched, after⟩ := use.touched_after plugin plain kind manager
      rw [after]
      have kept := asPrepared_and_entities_of_touched touched
      have sameSetUp : state.setUp = manager.state.setUp := (congrArg setUp kept.1 :)
      exact ⟨sameSetUp, kept.2⟩
  | true =>
      obtain ⟨host, settings, rfl⟩ := use.eq_prepare_of_prepares kind
      -- A preparation that succeeds goes on to ask for the details, which counts a
      -- request.
      have own := setUp_and_entities_prepare host settings manager.state
      simp only [ManagerUse.after, Manager.prepare]
      split
      · exact own
      · split
        · exact own
        · exact own

/-! ## Events -/

theorem setUp_after (use : ManagerUse CataloguePager) (manager : Manager Catalogue) :
    (use.after plugin manager).state.setUp = manager.state.setUp := by
  cases use with
  | batch call answer =>
      exact call.view_ask steady_setUp answer manager
  | shape policy operation =>
      rw [ManagerUse.after, after_shape]
      cases operation <;> exact BatchCall.view_ask steady_setUp _ _ manager
  | _ =>
      exact (setUp_and_entities_after rfl manager).1

/-- No event changes the set-up of a catalogue. -/
theorem setUp_runEvents
    (events : List (ManagerEvent CataloguePager (Option ApiError)))
    (manager : Manager Catalogue) :
    (runEvents plugin refusing events manager).state.setUp = manager.state.setUp := by
  induction events generalizing manager with
  | nil =>
      rfl
  | cons event rest inductionHypothesis =>
      refine (inductionHypothesis _).trans ?_
      cases event with
      | used use =>
          exact setUp_after use manager
      | changed failure =>
          rfl

theorem callFailure_runEvents
    (events : List (ManagerEvent CataloguePager (Option ApiError)))
    (manager : Manager Catalogue) :
    (runEvents plugin refusing events manager).state.callFailure =
      manager.state.callFailure :=
  (congrArg callFailure (setUp_runEvents events manager) :)

end AssetExchange
