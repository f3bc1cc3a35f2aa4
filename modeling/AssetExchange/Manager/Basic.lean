import AssetExchange.Catalogue.Basic
import AssetExchange.Plugin.Basic
import AssetExchange.Text.Piece

/-!
# The host's view of a manager

A `Manager` holds a manager's state together with what the host remembers about it:
the beginning of its references, learned when it was last prepared. Requests pass
through to the manager's interface; preparation also verifies the required
capabilities and learns the scheme, and while a scheme is known strings are
recognised without asking the manager.
-/

namespace AssetExchange

/-- A manager as a host holds it. -/
structure Manager (sigma : Type) where
  state : sigma
  /-- What its references begin with, if it published that when last prepared. -/
  scheme : Option String

namespace Manager

variable {sigma pi alpha : Type} (plugin : Plugin sigma pi)

def ofState (state : sigma) : Manager sigma := ⟨state, none⟩

def pass (request : Request sigma alpha) : Request (Manager sigma) alpha :=
  fun manager => (request manager.state).mapState fun state => { manager with state := state }

def passBatch (request : BatchRequest sigma alpha) : BatchRequest (Manager sigma) alpha :=
  fun manager => (request manager.state).mapResult fun reply =>
    reply.mapState fun state => { manager with state := state }

/-! ## Identity, settings and preparation -/

def identifier (manager : Manager sigma) : String :=
  plugin.identifier manager.state

def displayName (manager : Manager sigma) : String :=
  plugin.displayName manager.state

def info : Request (Manager sigma) InfoDictionary :=
  pass plugin.info

def hasCapability (manager : Manager sigma) (capability : Capability) : Bool :=
  plugin.hasCapability manager.state capability

/-- Every capability the manager has, in declaration order. -/
def capabilities (manager : Manager sigma) : List Capability :=
  Enumerated.values.filter (manager.hasCapability plugin)

def settings : Request (Manager sigma) (Outcome InfoDictionary) :=
  pass plugin.settings

/-- Replaces terms by the manager's own. -/
def updateTerminology (terms : Terminology) :
    Request (Manager sigma) (Outcome Terminology) :=
  pass (plugin.updateTerminology terms)

def flushCaches : Request (Manager sigma) (Outcome Unit) :=
  pass plugin.flushCaches

def managementPolicy (traitSets : List TraitSet) (access : PolicyAccess)
    (context : Context) : Request (Manager sigma) (Outcome (List TraitsData)) :=
  pass (plugin.managementPolicy traitSets access context)

def schemeLearned (scheme : String) : LogMessage :=
  ⟨.debugApi, "Entity reference prefix '" ++ scheme ++
    "' provided by manager's info() dict. Subsequent calls to " ++
    "is_entity_reference_string will use this prefix rather than call " ++
    "the manager's implementation."⟩

def schemeUnusable : LogMessage :=
  ⟨.warning,
    "Entity reference prefix given but is an invalid type: should be a string."⟩

/-- The scheme that details about a manager publish, and what is to be said of it. -/
def publishedScheme (details : InfoDictionary) : Option String × List LogMessage :=
  match details.get? Catalogue.schemeKey with
  | none => (none, [])
  | some (.text scheme) => (some scheme, [schemeLearned scheme])
  | some _ => (none, [schemeUnusable])

/-- Prepares the manager, then verifies its capabilities, which it may know only now,
and learns its scheme. A failure leaves no scheme known. -/
def prepare (host : Host) (settings : InfoDictionary) :
    Request (Manager sigma) (Outcome Unit) :=
  fun manager =>
    let prepared := plugin.prepare host settings manager.state
    match prepared.answer with
    | .error error => ⟨.error error, ofState prepared.state, prepared.messages⟩
    | .ok () =>
        match plugin.verifyCapabilities prepared.state with
        | .error error => ⟨.error error, ofState prepared.state, prepared.messages⟩
        | .ok () =>
            let described := plugin.info prepared.state
            let (scheme, messages) := publishedScheme described.answer
            ⟨.ok (), ⟨described.state, scheme⟩,
              prepared.messages ++ described.messages ++ messages⟩

/-! ## Contexts -/

/-- A fresh context, with state if the manager supports it. -/
def createContext : Request (Manager sigma) (Outcome Context) :=
  fun manager =>
    if manager.hasCapability plugin .statefulContexts then
      (pass plugin.createState manager).mapOk fun state => ⟨.empty, some state⟩
    else ⟨.ok .empty, manager, []⟩

/-- A context with the parent's locale, and with derived state if the parent has
state. -/
def createChildContext (parent : Context) : Request (Manager sigma) (Outcome Context) :=
  match parent.state with
  | none => .answer (.ok (.ofLocale parent.locale))
  | some state => fun manager =>
      (pass (plugin.createChildState state) manager).mapOk fun child =>
        ⟨parent.locale, some child⟩

/-- A text from which a context with the same state can be restored; empty for a
context without state. -/
def persistenceToken (context : Context) : Request (Manager sigma) (Outcome String) :=
  match context.state with
  | none => .answer (.ok "")
  | some state => pass (plugin.tokenForState state)

/-- The context that a token stands for. -/
def contextOfToken (token : String) : Request (Manager sigma) (Outcome Context) :=
  if token.isEmpty then .answer (.ok .empty)
  else fun manager =>
    (pass (plugin.stateFromToken token) manager).mapOk fun state => ⟨.empty, some state⟩

/-! ## References -/

/-- Whether a string is one of the manager's references. A known scheme decides;
otherwise the manager is asked. -/
def recognize (text : String) : Request (Manager sigma) Bool :=
  fun manager =>
    match manager.scheme with
    | some scheme => ⟨Text.startsWith text scheme, manager, []⟩
    | none => pass (plugin.recognize text) manager

def createReference (text : String) : Request (Manager sigma) (Outcome EntityReference) :=
  fun manager => (recognize plugin text manager).map fun recognized =>
    if recognized then .ok ⟨text⟩ else .error (Fault.invalidReference text).toError

def createReferenceIfValid (text : String) :
    Request (Manager sigma) (Option EntityReference) :=
  fun manager => (recognize plugin text manager).map fun recognized =>
    if recognized then some ⟨text⟩ else none

end Manager
end AssetExchange
