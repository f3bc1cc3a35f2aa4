import AssetExchange.Desk.Operation
import AssetExchange.Proofs.Batch.Ruling
import AssetExchange.Proofs.Catalogue.Reporting

/-!
# What happens to a manager

A host does with a manager what its view of managers and the pagers of that manager
offer; `ManagerUse` lists it.  Between two uses a manager may change without being
asked, in the ways that a type `delta` names: `ManagerEvent` covers both, and
`runEvents` is the manager after a list of events, oldest first.

A request about one entity or many does to the manager what the batch request behind
it does, heard under the answers of the error policy (`after_shape`).  Every use that
neither makes a batch request nor prepares the manager comes down to one request of its
interface at most (`ManagerUse.touched_after`).
-/

namespace AssetExchange

/-! ## Batch requests through the host's view -/

namespace BatchCall

variable {sigma pi alpha : Type}

/-- Makes the request through the host's view of the manager. -/
def ask (plugin : Plugin sigma pi) :
    BatchCall pi alpha → BatchRequest (Manager sigma) alpha
  | entityExists references context => Manager.entityExists plugin references context
  | entityTraits references access context =>
      Manager.entityTraits plugin references access context
  | resolve references traits access context =>
      Manager.resolve plugin references traits access context
  | defaultEntityReference traitSets access context =>
      Manager.defaultEntityReference plugin traitSets access context
  | relatedToMany references relationship resultTraits pageSize access context =>
      Manager.relatedToMany plugin references relationship resultTraits pageSize access
        context
  | relatedByMany reference relationships resultTraits pageSize access context =>
      Manager.relatedByMany plugin reference relationships resultTraits pageSize access
        context
  | preflight references hints access context =>
      Manager.preflight plugin references hints access context
  | register references datas access context =>
      Manager.register plugin references datas access context

/-- The fault for which the request is not passed on to the manager, if there is
one. -/
def check : BatchCall pi alpha → Option Fault
  | relatedToMany _ _ _ pageSize _ _ => Manager.checkPageSize pageSize
  | relatedByMany _ _ _ pageSize _ _ => Manager.checkPageSize pageSize
  | preflight references hints _ _ =>
      Manager.checkLengths references.length hints.length "traits hints"
  | register references datas _ _ =>
      Manager.checkLengths references.length datas.length "traits datas"
  | _ => none

theorem ask_eq (plugin : Plugin sigma pi) (call : BatchCall pi alpha) :
    call.ask plugin = Manager.guarded call.check (call.make plugin) := by
  cases call <;> rfl

/-- A request that is not passed on reports nothing and leaves the manager alone. -/
theorem transcript_ask_of_check {plugin : Plugin sigma pi} {call : BatchCall pi alpha}
    {fault : Fault} (checked : call.check = some fault)
    (answer : List (Report alpha) → Flow) (manager : Manager sigma) :
    (call.ask plugin manager).transcript answer [] =
      ([], ⟨.error fault.toError, manager, []⟩) := by
  rw [ask_eq, checked]
  rfl

/-- A request that is passed on is heard as the manager makes it. -/
theorem transcript_ask {plugin : Plugin sigma pi} {call : BatchCall pi alpha}
    (passed : call.check = none)
    (answer : List (Report alpha) → Flow) (manager : Manager sigma) :
    (call.ask plugin manager).transcript answer [] =
      (((call.make plugin manager.state).transcript answer []).1,
        ((call.make plugin manager.state).transcript answer []).2.mapState
          fun state => { manager with state := state }) := by
  rw [ask_eq, passed]
  exact BatchRun.transcript_mapResult _ answer (call.make plugin manager.state) []

end BatchCall

/-! ## Uses -/

/-- One use that a host makes of a manager. -/
inductive ManagerUse (pi : Type) : Type 1
  | identifier
  | displayName
  | hasCapability (capability : Capability)
  | capabilities
  | prepare (host : Host) (settings : InfoDictionary)
  | info
  | settings
  | updateTerminology (terms : Terminology)
  | flushCaches
  | managementPolicy (traitSets : List TraitSet) (access : PolicyAccess)
      (context : Context)
  | createContext
  | createChildContext (parent : Context)
  | persistenceToken (context : Context)
  | contextOfToken (token : String)
  | recognize (text : String)
  | createReference (text : String)
  | createReferenceIfValid (text : String)
  /-- Makes a batch request and answers its errors by looking at all reports so
  far. -/
  | batch {alpha : Type} (call : BatchCall pi alpha)
      (answer : List (Report alpha) → Flow)
  | shape (policy : ErrorPolicy) (operation : ShapeOperation)
  | pagerHasNext (pager : pi)
  | pagerGet (pager : pi)
  | pagerNext (pager : pi)
  | pagerClose (pager : pi)

/-- Whether a use makes a batch request, with or without an error policy. -/
def ManagerUse.isBatch {pi : Type} : ManagerUse pi → Bool
  | batch _ _ => true
  | shape _ _ => true
  | _ => false

def ManagerUse.prepares {pi : Type} : ManagerUse pi → Bool
  | prepare _ _ => true
  | _ => false

theorem ManagerUse.eq_prepare_of_prepares {pi : Type} {use : ManagerUse pi}
    (prepares : use.prepares = true) : ∃ host settings, use = prepare host settings := by
  cases use with
  | prepare host settings =>
      exact ⟨host, settings, rfl⟩
  | _ =>
      cases prepares

section After

variable {sigma pi delta : Type}

def ShapeOperation.after (plugin : Plugin sigma pi) (policy : ErrorPolicy) :
    ShapeOperation → Manager sigma → Manager sigma
  | entityExistsOne reference context, manager =>
      (Manager.entityExistsOne plugin policy reference context manager).state
  | entityExistsMany references context, manager =>
      (Manager.entityExistsMany plugin policy references context manager).state
  | entityTraitsOne reference context access, manager =>
      (Manager.entityTraitsOne plugin policy reference access context manager).state
  | entityTraitsMany references context access, manager =>
      (Manager.entityTraitsMany plugin policy references access context manager).state
  | resolveOne reference context access traits, manager =>
      (Manager.resolveOne plugin policy reference traits access context manager).state
  | resolveMany references context access traits, manager =>
      (Manager.resolveMany plugin policy references traits access context manager).state
  | preflightOne reference context access hint, manager =>
      (Manager.preflightOne plugin policy reference hint access context manager).state
  | preflightMany references context access hints, manager =>
      (Manager.preflightMany plugin policy references hints access context manager).state
  | registerOne reference context access data, manager =>
      (Manager.registerOne plugin policy reference data access context manager).state
  | registerMany references context access datas, manager =>
      (Manager.registerMany plugin policy references datas access context manager).state

def ManagerUse.after (plugin : Plugin sigma pi) :
    ManagerUse pi → Manager sigma → Manager sigma
  | identifier, manager => manager
  | displayName, manager => manager
  | hasCapability _, manager => manager
  | capabilities, manager => manager
  | prepare host values, manager => (Manager.prepare plugin host values manager).state
  | info, manager => (Manager.info plugin manager).state
  | settings, manager => (Manager.settings plugin manager).state
  | updateTerminology terms, manager =>
      (Manager.updateTerminology plugin terms manager).state
  | flushCaches, manager => (Manager.flushCaches plugin manager).state
  | managementPolicy traitSets access context, manager =>
      (Manager.managementPolicy plugin traitSets access context manager).state
  | createContext, manager => (Manager.createContext plugin manager).state
  | createChildContext parent, manager =>
      (Manager.createChildContext plugin parent manager).state
  | persistenceToken context, manager =>
      (Manager.persistenceToken plugin context manager).state
  | contextOfToken token, manager => (Manager.contextOfToken plugin token manager).state
  | recognize text, manager => (Manager.recognize plugin text manager).state
  | createReference text, manager => (Manager.createReference plugin text manager).state
  | createReferenceIfValid text, manager =>
      (Manager.createReferenceIfValid plugin text manager).state
  | batch call answer, manager => ((call.ask plugin manager).transcript answer []).2.state
  | shape policy operation, manager => operation.after plugin policy manager
  | pagerHasNext pager, manager => (Manager.pass (plugin.pagerHasNext pager) manager).state
  | pagerGet pager, manager => (Manager.pass (plugin.pagerGet pager) manager).state
  | pagerNext pager, manager => (Manager.pass (plugin.pagerNext pager) manager).state
  | pagerClose pager, manager => (Manager.pass (plugin.pagerClose pager) manager).state

/-- The batch request behind a request about one entity or many, heard under the
answers of the error policy. -/
def ShapeOperation.batch (policy : ErrorPolicy) : ShapeOperation → ManagerUse pi
  | entityExistsOne reference context =>
      .batch (.entityExists [reference] context) policy.answers
  | entityExistsMany references context =>
      .batch (.entityExists references context) policy.answers
  | entityTraitsOne reference context access =>
      .batch (.entityTraits [reference] access context) policy.answers
  | entityTraitsMany references context access =>
      .batch (.entityTraits references access context) policy.answers
  | resolveOne reference context access traits =>
      .batch (.resolve [reference] traits access context) policy.answers
  | resolveMany references context access traits =>
      .batch (.resolve references traits access context) policy.answers
  | preflightOne reference context access hint =>
      .batch (.preflight [reference] [hint] access context) policy.answers
  | preflightMany references context access hints =>
      .batch (.preflight references hints access context) policy.answers
  | registerOne reference context access data =>
      .batch (.register [reference] [data] access context) policy.answers
  | registerMany references context access datas =>
      .batch (.register references datas access context) policy.answers

theorem state_collect {tau alpha : Type} (policy : ErrorPolicy)
    (subjects : List EntityReference) (access : Option Access)
    (batch : BatchRequest tau alpha) (state : tau) :
    (Manager.collect policy subjects access batch state).state =
      (policy.hears (batch state)).2.state := by
  rw [collect_eq]
  rfl

/-- A request about one entity or many changes the manager as the batch request behind
it does. -/
theorem after_shape (plugin : Plugin sigma pi) (policy : ErrorPolicy)
    (operation : ShapeOperation) (manager : Manager sigma) :
    operation.after plugin policy manager =
      (operation.batch policy).after plugin manager := by
  cases operation <;>
    simp only [ShapeOperation.after, Manager.entityExistsOne, Manager.entityExistsMany,
      Manager.entityTraitsOne, Manager.entityTraitsMany, Manager.resolveOne,
      Manager.resolveMany, Manager.preflightOne, Manager.preflightMany,
      Manager.registerOne, Manager.registerMany, Manager.one, Reply.map,
      state_collect] <;>
    rfl

/-! ## Plain uses -/

/-- Where at most one request leaves a manager, which neither prepares it nor is a batch
request. -/
inductive Plugin.Touched (plugin : Plugin sigma pi) (state : sigma) : sigma → Prop
  | untouched : Touched plugin state state
  | info : Touched plugin state (plugin.info state).state
  | settings : Touched plugin state (plugin.settings state).state
  | updateTerminology (terms : Terminology) :
      Touched plugin state (plugin.updateTerminology terms state).state
  | flushCaches : Touched plugin state (plugin.flushCaches state).state
  | managementPolicy (traitSets : List TraitSet) (access : PolicyAccess)
      (context : Context) :
      Touched plugin state (plugin.managementPolicy traitSets access context state).state
  | createState : Touched plugin state (plugin.createState state).state
  | createChildState (parent : ContextState) :
      Touched plugin state (plugin.createChildState parent state).state
  | tokenForState (held : ContextState) :
      Touched plugin state (plugin.tokenForState held state).state
  | stateFromToken (token : String) :
      Touched plugin state (plugin.stateFromToken token state).state
  | recognize (text : String) : Touched plugin state (plugin.recognize text state).state
  | pagerHasNext (pager : pi) :
      Touched plugin state (plugin.pagerHasNext pager state).state
  | pagerGet (pager : pi) : Touched plugin state (plugin.pagerGet pager state).state
  | pagerNext (pager : pi) : Touched plugin state (plugin.pagerNext pager state).state
  | pagerClose (pager : pi) : Touched plugin state (plugin.pagerClose pager state).state

/-- A known scheme decides whether a string is a reference, and otherwise the manager
is asked. -/
theorem touched_recognize (plugin : Plugin sigma pi) (text : String)
    (manager : Manager sigma) :
    ∃ state, plugin.Touched manager.state state ∧
      (Manager.recognize plugin text manager).state = { manager with state := state } := by
  unfold Manager.recognize
  split
  · exact ⟨manager.state, .untouched, rfl⟩
  · exact ⟨_, .recognize text, rfl⟩

/-- A use that neither prepares the manager nor makes a batch request comes down to one
request at most. -/
theorem ManagerUse.touched_after (plugin : Plugin sigma pi) {use : ManagerUse pi}
    (plain : use.isBatch = false) (other : use.prepares = false)
    (manager : Manager sigma) :
    ∃ state, plugin.Touched manager.state state ∧
      use.after plugin manager = { manager with state := state } := by
  cases use with
  | batch call answer =>
      cases plain
  | shape policy operation =>
      cases plain
  | prepare host settings =>
      cases other
  | createContext =>
      simp only [after, Manager.createContext]
      split
      · exact ⟨_, .createState, rfl⟩
      · exact ⟨_, .untouched, rfl⟩
  | createChildContext parent =>
      rcases parent with ⟨locale, _ | state⟩
      · exact ⟨_, .untouched, rfl⟩
      · exact ⟨_, .createChildState state, rfl⟩
  | persistenceToken context =>
      rcases context with ⟨locale, _ | state⟩
      · exact ⟨_, .untouched, rfl⟩
      · exact ⟨_, .tokenForState state, rfl⟩
  | contextOfToken token =>
      simp only [after, Manager.contextOfToken]
      split
      · exact ⟨_, .untouched, rfl⟩
      · exact ⟨_, .stateFromToken token, rfl⟩
  | recognize text =>
      exact touched_recognize plugin text manager
  | createReference text =>
      exact touched_recognize plugin text manager
  | createReferenceIfValid text =>
      exact touched_recognize plugin text manager
  | info =>
      exact ⟨_, .info, rfl⟩
  | settings =>
      exact ⟨_, .settings, rfl⟩
  | updateTerminology terms =>
      exact ⟨_, .updateTerminology terms, rfl⟩
  | flushCaches =>
      exact ⟨_, .flushCaches, rfl⟩
  | managementPolicy traitSets access context =>
      exact ⟨_, .managementPolicy traitSets access context, rfl⟩
  | pagerHasNext pager =>
      exact ⟨_, .pagerHasNext pager, rfl⟩
  | pagerGet pager =>
      exact ⟨_, .pagerGet pager, rfl⟩
  | pagerNext pager =>
      exact ⟨_, .pagerNext pager, rfl⟩
  | pagerClose pager =>
      exact ⟨_, .pagerClose pager, rfl⟩
  | _ =>
      exact ⟨_, .untouched, rfl⟩

/-! ## Events -/

/-- Something that happens to a manager. -/
inductive ManagerEvent (pi delta : Type) : Type 1
  | used (use : ManagerUse pi)
  | changed (name : delta)

/-- The manager after one event; `change` says what the names of changes stand for. -/
def ManagerEvent.after (plugin : Plugin sigma pi) (change : delta → sigma → sigma) :
    ManagerEvent pi delta → Manager sigma → Manager sigma
  | used use, manager => use.after plugin manager
  | changed name, manager => { manager with state := change name manager.state }

/-- The manager after a list of events, oldest first. -/
def runEvents (plugin : Plugin sigma pi) (change : delta → sigma → sigma)
    (events : List (ManagerEvent pi delta)) (manager : Manager sigma) : Manager sigma :=
  events.foldl (fun held event => event.after plugin change held) manager

theorem runEvents_append (plugin : Plugin sigma pi) (change : delta → sigma → sigma)
    (before after : List (ManagerEvent pi delta)) (manager : Manager sigma) :
    runEvents plugin change (before ++ after) manager =
      runEvents plugin change after (runEvents plugin change before manager) :=
  List.foldl_append

end After

end AssetExchange
