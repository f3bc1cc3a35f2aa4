import AssetExchange.Desk.Basic
import AssetExchange.Manager.Shapes

/-!
# Operations at a desk

Everything a host does with the manager at hand, as data: `Operation` names the
operations and `Answer` what comes of them. `Desk.perform` carries an operation out
at the manager at a place; `Desk.run` does so and takes the messages into the log.
-/

namespace AssetExchange

/-- A reported value, whatever kind of batch request it came from. -/
inductive ReportedValue
  | flag (value : Bool)
  | traits (value : TraitSet)
  | data (value : TraitsData)
  | reference (value : EntityReference)
  | maybeReference (value : Option EntityReference)
  /-- A pager, by the name under which it is kept. -/
  | pager (name : String)

/-- How the listener of a batch request answers errors: by looking at all reports so
far, their values left out. -/
abbrev AnswerRule := List (Nat × Option BatchElementError) → Flow

/-- Answers `stop` from the given error on. -/
def AnswerRule.stopFrom (count : Nat) : AnswerRule := fun reports =>
  if count ≤ (reports.filter (·.2.isSome)).length then .stop else .proceed

def AnswerRule.never : AnswerRule := fun _ => .proceed

/-- What a listener of a batch request looks at in a report. -/
def Report.outline {alpha : Type} (report : Report alpha) : Nat × Option BatchElementError :=
  (report.index,
    match report.outcome with
    | .ok _ => none
    | .error error => some error)

/-- A batch request whose reports the host listens to itself. -/
inductive BatchOperation
  | entityExists (references : List EntityReference) (context : Context)
  | entityTraits (references : List EntityReference) (context : Context)
      (access : EntityTraitsAccess)
  | resolve (references : List EntityReference) (context : Context) (traits : TraitSet)
      (access : ResolveAccess)
  | defaultEntityReference (traitSets : List TraitSet) (context : Context)
      (access : DefaultEntityAccess)
  | preflight (references : List EntityReference) (context : Context)
      (hints : List TraitsData) (access : PublishingAccess)
  | register (references : List EntityReference) (context : Context)
      (datas : List TraitsData) (access : PublishingAccess)
  /-- The pagers are kept under `name` followed by the index. -/
  | relatedToMany (context : Context) (pageSize : Nat) (access : RelationsAccess)
      (resultTraits : TraitSet) (name : String) (references : List EntityReference)
      (relationship : TraitsData)
  /-- The pagers are kept under `name` followed by the index. -/
  | relatedByMany (context : Context) (pageSize : Nat) (access : RelationsAccess)
      (resultTraits : TraitSet) (name : String) (reference : EntityReference)
      (relationships : List TraitsData)

/-- A request about one entity or many under an error policy. -/
inductive ShapeOperation
  | entityExistsOne (reference : EntityReference) (context : Context)
  | entityExistsMany (references : List EntityReference) (context : Context)
  | entityTraitsOne (reference : EntityReference) (context : Context)
      (access : EntityTraitsAccess)
  | entityTraitsMany (references : List EntityReference) (context : Context)
      (access : EntityTraitsAccess)
  | resolveOne (reference : EntityReference) (context : Context)
      (access : ResolveAccess) (traits : TraitSet)
  | resolveMany (references : List EntityReference) (context : Context)
      (access : ResolveAccess) (traits : TraitSet)
  | preflightOne (reference : EntityReference) (context : Context)
      (access : PublishingAccess) (hint : TraitsData)
  | preflightMany (references : List EntityReference) (context : Context)
      (access : PublishingAccess) (hints : List TraitsData)
  | registerOne (reference : EntityReference) (context : Context)
      (access : PublishingAccess) (data : TraitsData)
  | registerMany (references : List EntityReference) (context : Context)
      (access : PublishingAccess) (datas : List TraitsData)

/-- Something a host does with the manager at hand. -/
inductive Operation
  | prepare (settings : InfoDictionary)
  | identifier
  | displayName
  | info
  | hasCapability (capability : Capability)
  | capabilities
  | settings
  | updateTerminology (terms : Terminology)
  | flushCaches
  | managementPolicy (traitSets : List TraitSet) (context : Context)
      (access : PolicyAccess)
  | createContext (name : String)
  | createChildContext (parent : Context) (name : String)
  /-- Keeps a context that was not made by the manager. -/
  | keepContext (context : Context) (name : String)
  | showContext (context : Context)
  | contextOfToken (token name : String)
  | persistenceToken (context : Context)
  | recognize (text : String)
  | createReference (text : String)
  | createReferenceIfValid (text : String)
  | batch (answer : AnswerRule) (request : BatchOperation)
  | shape (policy : ErrorPolicy) (request : ShapeOperation)
  | pagerHasNext (name : String)
  | pagerGet (name : String)
  | pagerNext (name : String)
  | pagerDescribe (name : String)
  | pagerPages (name : String)
  | pagerIntoPages (name : String)
  | pagesNext (name : String)
  | pagerDrop (name : String)

/-- One element of the result of a request under an error policy. -/
inductive ResultElement
  | plain (value : ReportedValue)
  | tagged (outcome : ElementOutcome ReportedValue)

/-- What comes of an operation. -/
inductive Answer
  | nothing
  | flag (value : Bool)
  | text (value : String)
  | maybeText (value : Option String)
  | names (values : List String)
  | dictionary (value : InfoDictionary)
  | terms (value : Terminology)
  | bundles (values : List TraitsData)
  | context (value : Context)
  | reports (values : List (Report ReportedValue))
  | element (value : ResultElement)
  | elements (values : List ResultElement)
  | page (value : List EntityReference)
  | pages (values : List (Outcome (List EntityReference)))
  | walkItem (value : Option (Outcome (List EntityReference)))
  | failure (error : ApiError)
  /-- A batch request failed as a whole after these reports. -/
  | failureAfter (error : ApiError) (values : List (Report ReportedValue))
  /-- There is nothing of the given name. -/
  | missing

def Answer.ofOutcome {alpha : Type} (read : alpha → Answer) : Outcome alpha → Answer
  | .ok value => read value
  | .error error => .failure error

def ResultElement.ofElement {alpha : Type} (read : alpha → ReportedValue) :
    (policy : ErrorPolicy) → policy.Element alpha → ResultElement
  | .exception, value => .plain (read value)
  | .variant, outcome => .tagged (Except.map read (outcome : ElementOutcome alpha))

namespace Desk

variable {sigma pi alpha beta : Type} (plugin : Plugin sigma pi)

/-- Makes a request of the manager at a place and shows its answer. -/
def answering (place : Nat) (request : Request (Manager sigma) alpha)
    (read : alpha → Answer) : Request (Desk sigma pi) Answer :=
  fun desk => (ask place request desk).map fun
    | some answer => read answer
    | none => .missing

/-- Makes a batch request and listens to its reports. -/
def listen (place : Nat) (answer : AnswerRule)
    (request : BatchRequest (Manager sigma) alpha) :
    Request (Desk sigma pi) (Option (Outcome Unit × List (Report alpha))) :=
  ask place fun manager =>
    let (reports, reply) :=
      (request manager).transcript (fun heard => answer (heard.map Report.outline)) []
    reply.map fun outcome => (outcome, reports)

/-- The answer to a batch request whose reports were heard. -/
def reported (read : alpha → ReportedValue) :
    Option (Outcome Unit × List (Report alpha)) → Answer
  | none => .missing
  | some (outcome, reports) =>
      let shown := reports.map fun report =>
        (⟨report.index, report.outcome.map read⟩ : Report ReportedValue)
      match outcome with
      | .ok () => .reports shown
      | .error error => .failureAfter error shown

/-- Makes a batch request and shows its reports. -/
def listening (place : Nat) (answer : AnswerRule)
    (request : BatchRequest (Manager sigma) alpha) (read : alpha → ReportedValue) :
    Request (Desk sigma pi) Answer :=
  fun desk => (listen place answer request desk).map (reported read)

def pagerName (name : String) (index : Nat) : String := name ++ toString index

/-- Keeps the pagers of the reported elements, in the order of the reports. -/
def keepReported (place : Nat) (name : String) :
    List (Report pi) → Request (Desk sigma pi) Unit
  | [] => .answer ()
  | ⟨index, .ok pager⟩ :: rest => fun desk =>
      (keepPager plugin (pagerName name index) ⟨place, pager⟩ desk).bind fun _ =>
        keepReported place name rest
  | ⟨_, .error _⟩ :: rest => keepReported place name rest

/-- Makes a batch request for pagers, keeps them and shows the reports. -/
def listeningForPagers (place : Nat) (answer : AnswerRule) (name : String)
    (request : BatchRequest (Manager sigma) pi) : Request (Desk sigma pi) Answer :=
  fun desk => (listen place answer request desk).bind fun
    | none => .answer .missing
    | some (outcome, reports) => fun desk =>
        (keepReported plugin place name reports desk).map fun _ =>
          let shown := reports.map fun report =>
            (⟨report.index,
              report.outcome.map fun _ => .pager (pagerName name report.index)⟩ :
              Report ReportedValue)
          match outcome with
          | .ok () => .reports shown
          | .error error => .failureAfter error shown

def performBatch (place : Nat) (answer : AnswerRule) :
    BatchOperation → Request (Desk sigma pi) Answer
  | .entityExists references context =>
      listening place answer (Manager.entityExists plugin references context) .flag
  | .entityTraits references context access =>
      listening place answer (Manager.entityTraits plugin references access context) .traits
  | .resolve references context traits access =>
      listening place answer (Manager.resolve plugin references traits access context) .data
  | .defaultEntityReference traitSets context access =>
      listening place answer
        (Manager.defaultEntityReference plugin traitSets access context) .maybeReference
  | .preflight references context hints access =>
      listening place answer (Manager.preflight plugin references hints access context)
        .reference
  | .register references context datas access =>
      listening place answer (Manager.register plugin references datas access context)
        .reference
  | .relatedToMany context pageSize access traits name references relationship =>
      listeningForPagers plugin place answer name
        (Manager.relatedToMany plugin references relationship traits pageSize access context)
  | .relatedByMany context pageSize access traits name reference relationships =>
      listeningForPagers plugin place answer name
        (Manager.relatedByMany plugin reference relationships traits pageSize access context)

def shapeOne (place : Nat) (policy : ErrorPolicy) (read : alpha → ReportedValue)
    (request : Request (Manager sigma) (Outcome (policy.Element alpha))) :
    Request (Desk sigma pi) Answer :=
  answering place request (.ofOutcome fun element => .element (.ofElement read policy element))

def shapeMany (place : Nat) (policy : ErrorPolicy) (read : alpha → ReportedValue)
    (request : Request (Manager sigma) (Outcome (List (policy.Element alpha)))) :
    Request (Desk sigma pi) Answer :=
  answering place request
    (.ofOutcome fun elements => .elements (elements.map (.ofElement read policy)))

def performShape (place : Nat) (policy : ErrorPolicy) :
    ShapeOperation → Request (Desk sigma pi) Answer
  | .entityExistsOne reference context =>
      shapeOne place policy .flag (Manager.entityExistsOne plugin policy reference context)
  | .entityExistsMany references context =>
      shapeMany place policy .flag (Manager.entityExistsMany plugin policy references context)
  | .entityTraitsOne reference context access =>
      shapeOne place policy .traits
        (Manager.entityTraitsOne plugin policy reference access context)
  | .entityTraitsMany references context access =>
      shapeMany place policy .traits
        (Manager.entityTraitsMany plugin policy references access context)
  | .resolveOne reference context access traits =>
      shapeOne place policy .data
        (Manager.resolveOne plugin policy reference traits access context)
  | .resolveMany references context access traits =>
      shapeMany place policy .data
        (Manager.resolveMany plugin policy references traits access context)
  | .preflightOne reference context access hint =>
      shapeOne place policy .reference
        (Manager.preflightOne plugin policy reference hint access context)
  | .preflightMany references context access hints =>
      shapeMany place policy .reference
        (Manager.preflightMany plugin policy references hints access context)
  | .registerOne reference context access data =>
      shapeOne place policy .reference
        (Manager.registerOne plugin policy reference data access context)
  | .registerMany references context access datas =>
      shapeMany place policy .reference
        (Manager.registerMany plugin policy references datas access context)

def keepingContext (place : Nat) (name : String)
    (request : Request (Manager sigma) (Outcome Context)) : Request (Desk sigma pi) Answer :=
  fun desk => (ask place request desk).bind fun
    | none => .answer .missing
    | some (.error error) => .answer (.failure error)
    | some (.ok context) => fun desk =>
        (keepContext name context desk).map fun _ => .context context

def orMissing (read : alpha → Answer) (found : Option alpha) : Answer :=
  match found with
  | some value => read value
  | none => .missing

def perform (place : Nat) : Operation → Request (Desk sigma pi) Answer
  | .prepare settings => fun desk =>
      answering place (Manager.prepare plugin desk.session.host settings)
        (.ofOutcome fun _ => .nothing) desk
  | .identifier =>
      answering place (fun manager => ⟨manager.identifier plugin, manager, []⟩) .text
  | .displayName =>
      answering place (fun manager => ⟨manager.displayName plugin, manager, []⟩) .text
  | .info => answering place (Manager.info plugin) .dictionary
  | .hasCapability capability =>
      answering place
        (fun manager => ⟨manager.hasCapability plugin capability, manager, []⟩) .flag
  | .capabilities =>
      answering place
        (fun manager => ⟨(manager.capabilities plugin).map Capability.name, manager, []⟩)
        .names
  | .settings => answering place (Manager.settings plugin) (.ofOutcome .dictionary)
  | .updateTerminology terms =>
      answering place (Manager.updateTerminology plugin terms) (.ofOutcome .terms)
  | .flushCaches =>
      answering place (Manager.flushCaches plugin) (.ofOutcome fun _ => .nothing)
  | .managementPolicy traitSets context access =>
      answering place (Manager.managementPolicy plugin traitSets access context)
        (.ofOutcome .bundles)
  | .createContext name => keepingContext place name (Manager.createContext plugin)
  | .createChildContext parent name =>
      keepingContext place name (Manager.createChildContext plugin parent)
  | .contextOfToken token name =>
      keepingContext place name (Manager.contextOfToken plugin token)
  | .keepContext context name => fun desk =>
      (keepContext name context desk).map fun _ => .context context
  | .showContext context => .answer (.context context)
  | .persistenceToken context =>
      answering place (Manager.persistenceToken plugin context) (.ofOutcome .text)
  | .recognize text => answering place (Manager.recognize plugin text) .flag
  | .createReference text =>
      answering place (Manager.createReference plugin text)
        (.ofOutcome fun reference => .text reference.text)
  | .createReferenceIfValid text =>
      answering place (Manager.createReferenceIfValid plugin text) fun found =>
        .maybeText (found.map EntityReference.text)
  | .batch answer request => performBatch plugin place answer request
  | .shape policy request => performShape plugin place policy request
  | .pagerHasNext name => fun desk =>
      (askPager name plugin.pagerHasNext desk).map (orMissing (.ofOutcome .flag))
  | .pagerGet name => fun desk =>
      (askPager name plugin.pagerGet desk).map (orMissing (.ofOutcome .page))
  | .pagerNext name => fun desk =>
      (askPager name plugin.pagerNext desk).map
        (orMissing (.ofOutcome fun _ => .nothing))
  | .pagerDescribe name => fun desk =>
      ⟨orMissing (fun _ => .text Pages.describePager) (desk.pagers.get? name), desk, []⟩
  | .pagerPages name => fun desk =>
      (collectPages plugin name desk).map (orMissing .pages)
  | .pagerIntoPages name => fun desk =>
      (startWalk plugin name desk).map (orMissing fun walk => .text walk.describe)
  | .pagesNext name => fun desk =>
      (walkOn plugin name desk).map (orMissing .walkItem)
  | .pagerDrop name => fun desk => (drop plugin name desk).map .flag

/-- Carries out an operation and takes its messages into the log. -/
def run (place : Nat) (operation : Operation) (desk : Desk sigma pi) :
    Answer × Desk sigma pi :=
  settle (perform plugin place operation desk)

end Desk
end AssetExchange
