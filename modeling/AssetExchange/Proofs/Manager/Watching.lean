import AssetExchange.Proofs.Manager.Uses
import AssetExchange.Proofs.Pager.Record

/-!
# What a manager is asked

To say which requests reach a manager, `Plugin.watched` makes of any manager one that keeps
a list of them and behaves the same.  A batch request that a host makes through its view
adds itself to that list if it passes its check, and nothing is added if it does not; it is
heard, answered and logged as before (`ask_watched`, `collect_watched`).
-/

namespace AssetExchange

variable {sigma pi alpha : Type}

inductive ReportKind
  | existence
  | traits
  | data
  | defaultReference
  | pager
  | reference

def ReportKind.Value (pi : Type) : ReportKind → Type
  | existence => Bool
  | traits => TraitSet
  | data => TraitsData
  | defaultReference => Option EntityReference
  | pager => pi
  | reference => EntityReference

/-- A request that reached a manager.  A batch request is kept with its arguments, and any
other by its name.  The kind stands for the type of the reports, so that requests with
reports of all types can be on one list. -/
inductive Asked (pi : Type)
  | plain (call : Call)
  | pager (call : PagerCall)
  | batch (kind : ReportKind) (call : BatchCall pi (kind.Value pi))

def BatchCall.asked : BatchCall pi alpha → Asked pi
  | call@(entityExists ..) => .batch .existence call
  | call@(entityTraits ..) => .batch .traits call
  | call@(resolve ..) => .batch .data call
  | call@(defaultEntityReference ..) => .batch .defaultReference call
  | call@(relatedToMany ..) => .batch .pager call
  | call@(relatedByMany ..) => .batch .pager call
  | call@(preflight ..) => .batch .reference call
  | call@(register ..) => .batch .reference call

/-- A manager with a list of what it was asked, oldest first. -/
structure Watched (sigma pi : Type) where
  state : sigma
  asked : List (Asked pi)

namespace Watched

def noting (asked : Asked pi) (request : Request sigma alpha) :
    Request (Watched sigma pi) alpha :=
  fun held => (request held.state).mapState fun state => ⟨state, held.asked ++ [asked]⟩

/-- A batch request that is put on the list and made. -/
def notingBatch (plugin : Plugin sigma pi) (call : BatchCall pi alpha) :
    BatchRequest (Watched sigma pi) alpha :=
  fun held => (call.make plugin held.state).mapResult fun reply =>
    reply.mapState fun state => ⟨state, held.asked ++ [call.asked]⟩

end Watched

open Watched in
/-- The manager that keeps a list of what it is asked and is otherwise the same.  Its
identity and its capabilities are not asked for, as they are read off its state. -/
def Plugin.watched (plugin : Plugin sigma pi) : Plugin (Watched sigma pi) pi where
  identifier := fun held => plugin.identifier held.state
  displayName := fun held => plugin.displayName held.state
  info := noting (.plain .info) plugin.info
  hasCapability := fun held => plugin.hasCapability held.state
  settings := noting (.plain .settings) plugin.settings
  prepare := fun host settings => noting (.plain .prepare) (plugin.prepare host settings)
  flushCaches := noting (.plain .flushCaches) plugin.flushCaches
  updateTerminology := fun terms =>
    noting (.plain .updateTerminology) (plugin.updateTerminology terms)
  managementPolicy := fun traitSets access context =>
    noting (.plain .managementPolicy) (plugin.managementPolicy traitSets access context)
  recognize := fun text => noting (.plain .recognize) (plugin.recognize text)
  createState := noting (.plain .createState) plugin.createState
  createChildState := fun parent =>
    noting (.plain .createChildState) (plugin.createChildState parent)
  tokenForState := fun state => noting (.plain .tokenForState) (plugin.tokenForState state)
  stateFromToken := fun token => noting (.plain .stateFromToken) (plugin.stateFromToken token)
  entityExists := fun references context =>
    notingBatch plugin (.entityExists references context)
  entityTraits := fun references access context =>
    notingBatch plugin (.entityTraits references access context)
  resolve := fun references traits access context =>
    notingBatch plugin (.resolve references traits access context)
  defaultEntityReference := fun traitSets access context =>
    notingBatch plugin (.defaultEntityReference traitSets access context)
  relatedToMany := fun references relationship resultTraits pageSize access context =>
    notingBatch plugin
      (.relatedToMany references relationship resultTraits pageSize access context)
  relatedByMany := fun reference relationships resultTraits pageSize access context =>
    notingBatch plugin
      (.relatedByMany reference relationships resultTraits pageSize access context)
  preflight := fun references hints access context =>
    notingBatch plugin (.preflight references hints access context)
  register := fun references datas access context =>
    notingBatch plugin (.register references datas access context)
  pagerHasNext := fun pager => noting (.pager .hasNext) (plugin.pagerHasNext pager)
  pagerGet := fun pager => noting (.pager .get) (plugin.pagerGet pager)
  pagerNext := fun pager => noting (.pager .next) (plugin.pagerNext pager)
  pagerClose := fun pager => noting (.pager .close) (plugin.pagerClose pager)

namespace Manager

def unwatched (manager : Manager (Watched sigma pi)) : Manager sigma :=
  ⟨manager.state.state, manager.scheme⟩

/-- The manager later, when it was asked some more. -/
def noting (manager : Manager (Watched sigma pi)) (more : List (Asked pi)) (later : Manager sigma) :
    Manager (Watched sigma pi) :=
  ⟨⟨later.state, manager.state.asked ++ more⟩, later.scheme⟩

theorem noting_nil (manager : Manager (Watched sigma pi)) :
    manager.noting [] manager.unwatched = manager := by
  simp [noting, unwatched]

end Manager

/-- The manager is asked for this and nothing else, and the request comes to what it comes
to when nobody watches. -/
def AskedOnce (plugin : Plugin sigma pi) (asked : Asked pi)
    (request : {tau : Type} → Plugin tau pi → Request (Manager tau) alpha) : Prop :=
  ∀ manager : Manager (Watched sigma pi),
    request plugin.watched manager =
      (request plugin manager.unwatched).mapState (manager.noting [asked])

/-- The same of a batch request, which reports as it does when nobody watches. -/
def BatchAskedOnce (plugin : Plugin sigma pi) (asked : Asked pi)
    (request : {tau : Type} → Plugin tau pi → BatchRequest (Manager tau) alpha) : Prop :=
  ∀ manager : Manager (Watched sigma pi),
    request plugin.watched manager =
      (request plugin manager.unwatched).mapResult fun reply =>
        reply.mapState (manager.noting [asked])

namespace BatchCall

/-- What the request asks of a manager when it is made through the host's view. -/
def passedOn (call : BatchCall pi alpha) : List (Asked pi) :=
  match call.check with
  | none => [call.asked]
  | some _ => []

theorem make_watched (plugin : Plugin sigma pi) (call : BatchCall pi alpha) :
    call.make plugin.watched = Watched.notingBatch plugin call := by
  cases call <;> rfl

/-- A watched manager makes the reports that it makes otherwise. -/
theorem ask_watched (plugin : Plugin sigma pi) (call : BatchCall pi alpha)
    (manager : Manager (Watched sigma pi)) :
    call.ask plugin.watched manager =
      (call.ask plugin manager.unwatched).mapResult fun reply =>
        reply.mapState (manager.noting call.passedOn) := by
  rw [ask_eq, ask_eq, make_watched, passedOn]
  cases call.check with
  | none =>
      simp only [Manager.guarded, Manager.passBatch, Watched.notingBatch,
        BatchRun.mapResult_mapResult]
      rfl
  | some fault =>
      simp only [Manager.guarded, Plugin.failBatch, BatchRun.mapResult, Reply.mapState,
        Manager.noting_nil]

/-- Under an error policy a watched manager has the effect and the result that it has
otherwise. -/
theorem collect_watched (plugin : Plugin sigma pi) (call : BatchCall pi alpha)
    (policy : ErrorPolicy) (subjects : List EntityReference) (access : Option Access)
    (manager : Manager (Watched sigma pi)) :
    Manager.collect policy subjects access (call.ask plugin.watched) manager =
      (Manager.collect policy subjects access (call.ask plugin) manager.unwatched).mapState
        (manager.noting call.passedOn) := by
  simp only [collect_eq, ErrorPolicy.hears, ask_watched, BatchRun.transcript_mapResult]
  rfl

theorem askedOnce_ask {call : BatchCall pi alpha} (passed : call.check = none)
    (plugin : Plugin sigma pi) :
    BatchAskedOnce plugin call.asked fun other => call.ask other := by
  intro manager
  have watched := ask_watched plugin call manager
  rw [passedOn, passed] at watched
  exact watched

theorem askedOnce_collect {call : BatchCall pi alpha} (passed : call.check = none)
    (plugin : Plugin sigma pi) (policy : ErrorPolicy) (subjects : List EntityReference)
    (access : Option Access) :
    AskedOnce plugin call.asked fun other =>
      Manager.collect policy subjects access (call.ask other) := by
  intro manager
  have watched := collect_watched plugin call policy subjects access manager
  rw [passedOn, passed] at watched
  exact watched

end BatchCall

end AssetExchange
