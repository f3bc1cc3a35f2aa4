import AssetExchange.Desk.Operation
import Mathlib.Algebra.GroupWithZero.Nat

/-!
# What a host does with pagers

A host asks a manager for pagers, keeps those that are delivered under names, uses them
by their names and drops them.  `PagingStep` lists these operations as data, and
`Desk.runAll` carries them out one after the other, in any order and with any managers.
-/

namespace AssetExchange

variable {sigma pi : Type}

/-! ## Queries -/

/-- A query for pagers. -/
inductive PagerQuery
  | toMany (references : List EntityReference) (relationship : TraitsData)
      (resultTraits : TraitSet) (pageSize : Nat) (access : RelationsAccess)
      (context : Context)
  | byMany (reference : EntityReference) (relationships : List TraitsData)
      (resultTraits : TraitSet) (pageSize : Nat) (access : RelationsAccess)
      (context : Context)

namespace PagerQuery

def pageSize : PagerQuery → Nat
  | toMany _ _ _ size _ _ => size
  | byMany _ _ _ size _ _ => size

def make (plugin : Plugin sigma pi) : PagerQuery → BatchRequest sigma pi
  | toMany references relationship resultTraits pageSize access context =>
      plugin.relatedToMany references relationship resultTraits pageSize access context
  | byMany reference relationships resultTraits pageSize access context =>
      plugin.relatedByMany reference relationships resultTraits pageSize access context

/-- The operation that makes the query and keeps the pagers under names that begin with
`name`. -/
def keeping (name : String) : PagerQuery → BatchOperation
  | toMany references relationship resultTraits pageSize access context =>
      .relatedToMany context pageSize access resultTraits name references relationship
  | byMany reference relationships resultTraits pageSize access context =>
      .relatedByMany context pageSize access resultTraits name reference relationships

/-- A query reaches the manager unless pages would have no room for a reference. -/
theorem performBatch_keeping (plugin : Plugin sigma pi) (place : Nat) (rule : AnswerRule)
    (name : String) (query : PagerQuery) :
    Desk.performBatch plugin place rule (query.keeping name) =
      Desk.listeningForPagers plugin place rule name
        (Manager.guarded (Manager.checkPageSize query.pageSize) (query.make plugin)) := by
  cases query <;> rfl

end PagerQuery

/-! ## Uses -/

/-- What can be done with the pager, or the walk, that is kept under a name. -/
inductive PagerUse
  | hasNext
  | get
  | next
  | describe
  | pages
  | intoPages
  | nextPage
  | drop
deriving DecidableEq

def PagerUse.on (name : String) : PagerUse → Operation
  | hasNext => .pagerHasNext name
  | get => .pagerGet name
  | next => .pagerNext name
  | describe => .pagerDescribe name
  | pages => .pagerPages name
  | intoPages => .pagerIntoPages name
  | nextPage => .pagesNext name
  | drop => .pagerDrop name

/-! ### Requests to what is kept -/

namespace Desk

/-- Where on a desk something is kept. -/
structure Slot (sigma pi kept : Type) where
  find : Desk sigma pi → Option (Held kept)
  put : Held kept → Desk sigma pi → Desk sigma pi
  find_session : ∀ desk session, find { desk with session := session } = find desk
  session_put : ∀ held desk, (put held desk).session = desk.session

def Slot.pager (name : String) : Slot sigma pi pi where
  find := fun desk => desk.pagers.get? name
  put := fun held desk => { desk with pagers := desk.pagers.insert name held }
  find_session := fun _ _ => rfl
  session_put := fun _ _ => rfl

def Slot.walk (name : String) : Slot sigma pi (Pages pi) where
  find := fun desk => desk.walks.get? name
  put := fun held desk => { desk with walks := desk.walks.insert name held }
  find_session := fun _ _ => rfl
  session_put := fun _ _ => rfl

/-- Makes a request of what is kept, which stays where it is. -/
def asking {kept alpha : Type} (slot : Slot sigma pi kept)
    (request : kept → Request sigma (kept × alpha)) : Request (Desk sigma pi) (Option alpha) :=
  fun desk =>
    match slot.find desk with
    | none => ⟨none, desk, []⟩
    | some held =>
        let reply := ask held.owner (Manager.pass (request held.item)) desk
        match reply.answer with
        | none => ⟨none, reply.state, reply.messages⟩
        | some (item, answer) =>
            ⟨some answer, slot.put ⟨held.owner, item⟩ reply.state, reply.messages⟩

theorem askPager_eq_asking {alpha : Type} (name : String)
    (request : pi → Request sigma (pi × alpha)) :
    askPager name request = asking (.pager name) request :=
  rfl

theorem walkOn_eq_asking (plugin : Plugin sigma pi) (name : String) :
    walkOn plugin name = asking (.walk name) (Pages.next plugin) := by
  funext desk
  simp only [walkOn, asking, Slot.walk]
  cases desk.walks.get? name with
  | none =>
      rfl
  | some held =>
      dsimp only
      rcases (ask held.owner (Manager.pass (Pages.next plugin held.item)) desk).answer with
        _ | ⟨walk, item⟩ <;> rfl

end Desk

/-! ## Runs -/

/-- A query for pagers, or a use of one. -/
inductive PagingOperation
  | query (rule : AnswerRule) (name : String) (asked : PagerQuery)
  | use (name : String) (kind : PagerUse)

def PagingOperation.toOperation : PagingOperation → Operation
  | query rule name asked => .batch rule (asked.keeping name)
  | use name kind => kind.on name

/-- An operation with the place of the manager at hand. -/
structure PagingStep where
  place : Nat
  operation : PagingOperation

/-- Whether a step is a query, or a use of what is kept under the name. -/
def PagingStep.concerns (name : String) (step : PagingStep) : Bool :=
  match step.operation with
  | .query _ _ _ => true
  | .use other _ => other = name

namespace Desk

def runStep (plugin : Plugin sigma pi) (step : PagingStep) (desk : Desk sigma pi) :
    Answer × Desk sigma pi :=
  run plugin step.place step.operation.toOperation desk

def runAll (plugin : Plugin sigma pi) :
    List PagingStep → Desk sigma pi → List Answer × Desk sigma pi
  | [], desk => ([], desk)
  | step :: rest, desk =>
      let (answer, after) := runStep plugin step desk
      let (answers, last) := runAll plugin rest after
      (answer :: answers, last)

end Desk

/-! ## Pagers that are reported -/

/-- The name under which a pager is kept, if the report is of one. -/
def Report.pagerName? (report : Report ReportedValue) : Option String :=
  match report.outcome with
  | .ok (.pager name) => some name
  | _ => none

/-- The names under which the reported pagers are kept, in the order of the reports. -/
def Answer.pagerNames : Answer → List String
  | .reports values => values.filterMap Report.pagerName?
  | .failureAfter _ values => values.filterMap Report.pagerName?
  | _ => []

/-- How many pagers an answer reports. -/
def Answer.pagersReported (answer : Answer) : Nat :=
  answer.pagerNames.length

/-- How many pagers of the manager at a place were delivered in a run: those that the
answers to the queries report. -/
def pagersDelivered (place : Nat) (steps : List PagingStep) (answers : List Answer) : Nat :=
  (((steps.zip answers).filter fun entry => entry.1.place = place).map
    fun entry => entry.2.pagersReported).sum

end AssetExchange
