import AssetExchange.Config.AppConfig
import AssetExchange.Manager.Basic
import AssetExchange.Session.Registry
import AssetExchange.Session.Settings

/-!
# Sessions

A session owns the manager a host is working with. Selecting a manager is cheap; it
is made and prepared when it is first needed and kept until another selection. The
session remembers every manager it has made, oldest first; a manager is identified by
its place in that list.
-/

namespace AssetExchange

/-- A host's choice of a manager, and the managers made so far. -/
structure Session (sigma : Type) where
  host : Host
  factory : Factory sigma
  selection : SessionSettings
  /-- The place of the manager in use, once it has been prepared. -/
  current : Option Nat
  /-- Every manager made so far, oldest first. -/
  managers : List (Manager sigma)

namespace Session

variable {sigma pi alpha : Type} (plugin : Plugin sigma pi)

def start (host : Host) (factory : Factory sigma) : Session sigma :=
  ⟨host, factory, .empty, none, []⟩

/-- A session that uses one given manager, which has not been prepared. -/
def ofManager (host : Host) (state : sigma) : Session sigma :=
  ⟨host, Factory.ofEntries [], .empty, some 0, [.ofState state]⟩

def askManager (place : Nat) (request : Request (Manager sigma) alpha) :
    Request (Session sigma) (Option alpha) :=
  fun session =>
    match session.managers[place]? with
    | none => ⟨none, session, []⟩
    | some manager =>
        let reply := request manager
        ⟨some reply.answer,
          { session with managers := session.managers.set place reply.state },
          reply.messages⟩

def registeredManagers (session : Session sigma) : List String :=
  session.factory.identifiers

/-- Selects a manager that can be made. The manager in use is let go. -/
def useManager (identifier : String) (settings : InfoDictionary) :
    Request (Session sigma) (Outcome Unit) :=
  fun session =>
    if session.factory.isRegistered identifier then
      let selection := ⟨some identifier, settings⟩
      ⟨.ok (), { session with selection := selection, current := none }, []⟩
    else ⟨.error (Fault.unknownManager identifier).toError, session, []⟩

/-- Selects the manager named in a configuration; says whether there was one. -/
def useConfiguredManager (config : AppConfig) : Request (Session sigma) (Outcome Bool) :=
  match config.manager with
  | none => .answer (.ok false)
  | some manager => fun session =>
      (useManager manager.identifier manager.settings session).mapOk fun _ => true

/-- The place of the selected manager, which is made and prepared if it is not in use
yet. Nothing when no manager is selected. -/
def currentManager : Request (Session sigma) (Outcome (Option Nat)) :=
  fun session =>
    match session.current, session.selection.identifier with
    | some place, _ => ⟨.ok (some place), session, []⟩
    | none, none => ⟨.ok none, session, []⟩
    | none, some identifier =>
        match session.factory.instantiate identifier with
        | .error error => ⟨.error error, session, []⟩
        | .ok state =>
            let prepared := Manager.prepare plugin session.host
              session.selection.settings (.ofState state)
            let made := { session with managers := session.managers ++ [prepared.state] }
            match prepared.answer with
            | .error error => ⟨.error error, made, prepared.messages⟩
            | .ok () =>
                ⟨.ok (some session.managers.length),
                  { made with current := some session.managers.length },
                  prepared.messages⟩

/-- Settings that recreate the selection, with the manager's own current settings. -/
def settings : Request (Session sigma) (Outcome SessionSettings) :=
  fun session =>
    (currentManager plugin session).bindOk fun
      | none => .answer (.ok .empty)
      | some place => fun held =>
          (askManager place (Manager.settings plugin) held).map fun
            | none => .ok .empty
            | some answer => answer.map fun settings =>
                ⟨held.selection.identifier, settings⟩

/-- Applies settings. Without an identifier the selection is cleared. -/
def setSettings (settings : SessionSettings) : Request (Session sigma) (Outcome Unit) :=
  match settings.identifier with
  | some identifier => useManager identifier settings.settings
  | none => fun session =>
      ⟨.ok (), { session with selection := .empty, current := none }, []⟩

/-- Applies the settings that the session would give now. -/
def reapplySettings : Request (Session sigma) (Outcome Unit) :=
  fun session => (settings plugin session).bindOk setSettings

def describe (session : Session sigma) : String :=
  "Session \x7b host_session: " ++ session.host.describeSession ++ ", selection: " ++
    session.selection.describe ++ ", initialized: " ++
    (if session.current.isSome then "true" else "false") ++ " \x7d"

end Session
end AssetExchange
