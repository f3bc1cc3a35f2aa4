import AssetExchange.Proofs.Session.Reached
import AssetExchange.Proofs.Session.Selection

/-!
# What a failed call leaves of a session

Calls of a session fail at several points: an identifier may be unknown, the factory may
make no manager, a new manager may not be prepared, and a manager in use may have no
settings to give.  `FailureLaw` says what each failure leaves behind, and that there are
no others.  After a manager could not be had, the next call starts over (`StartsOver`).
-/

namespace AssetExchange

variable {sigma pi delta omega : Type} {plugin : Plugin sigma pi}
  {factories : omega → Factory sigma} {change : delta → sigma → sigma}
  {session : Session sigma} {call : SessionCall} {error : ApiError}

/-! ## Calls that select -/

namespace SessionCall

/-- Only an identifier that is not registered makes a selecting call fail. -/
theorem unregistered_of_error (other : call.asks = false)
    (failed : (call.request plugin session).answer = .error error) :
    ∃ identifier settings, call.selection? = some ⟨some identifier, settings⟩ ∧
      session.factory.isRegistered identifier = false := by
  cases selects : call.selection? with
  | none =>
      rw [request_of_neither plugin selects other] at failed
      cases failed
  | some selection =>
      rcases selection with ⟨_ | identifier, settings⟩
      · obtain ⟨_, values, rfl⟩ := eq_setSettings_of_selection selects
        cases failed
      · refine ⟨identifier, settings, rfl, ?_⟩
        by_contra registered
        have registered : session.factory.isRegistered identifier = true := by
          simpa using registered
        rw [request_of_selection plugin selects,
          Session.useManager_of_registered registered] at failed
        cases failed

/-! ## Calls that get a manager -/

/-- A call that finds no manager because of an error fails with that error. -/
theorem request_of_unfound (asks : call.asks = true)
    (failed : (Session.currentManager plugin session).answer = .error error) :
    call.request plugin session =
      ⟨.error error, (Session.currentManager plugin session).state,
        (Session.currentManager plugin session).messages⟩ := by
  cases call with
  | currentManager =>
      simp only [request, Reply.mapOk, Reply.map, failed]
      rfl
  | settings =>
      simp only [request, Session.settings_of_error failed]
      rfl
  | _ =>
      cases asks

end SessionCall

namespace Session

/-- The settings cannot be had because the manager has none to give, although it was
found. -/
theorem settings_error_of_found
    (failed : (settings plugin session).answer = .error error)
    (found : ∀ other, (currentManager plugin session).answer ≠ .error other) :
    ∃ place manager, (currentManager plugin session).answer = .ok (some place) ∧
      (currentManager plugin session).state.managers[place]? = some manager ∧
      (Manager.settings plugin manager).answer = .error error := by
  cases answered : (currentManager plugin session).answer with
  | error other =>
      exact absurd answered (found other)
  | ok place =>
      cases place with
      | none =>
          rw [settings_of_none answered] at failed
          cases failed
      | some place =>
          cases held : (currentManager plugin session).state.managers[place]? with
          | none =>
              simp only [settings, Reply.bindOk, answered, askManager, held] at failed
              cases failed
          | some manager =>
              rw [settings_of_place answered held] at failed
              refine ⟨place, manager, rfl, held, ?_⟩
              cases own : (Manager.settings plugin manager).answer with
              | error ownError =>
                  rw [own] at failed
                  cases failed
                  rfl
              | ok values =>
                  rw [own] at failed
                  cases failed

/-! ## Starting over -/

/-- The next call for the selected manager makes a new one and prepares it with the
given settings. -/
structure StartsOver (plugin : Plugin sigma pi) (session : Session sigma)
    (identifier : String) (host : Host) (values : InfoDictionary) : Prop where
  /-- Without a new manager the call fails once more and changes nothing. -/
  unmade : ∀ (factory : Factory sigma) (error : ApiError),
    factory.instantiate identifier = .error error →
      currentManager plugin (session.within factory) =
        ⟨.error error, session.within factory, []⟩
  /-- The manager that is made is a new one. -/
  made : ∀ (factory : Factory sigma) (start : sigma),
    factory.instantiate identifier = .ok start →
      (currentManager plugin (session.within factory)).state.managers =
        session.managers ++ [(Manager.prepare plugin host values (.ofState start)).state]
  /-- It is had exactly if it can be prepared. -/
  ok_iff : ∀ (factory : Factory sigma) (start : sigma),
    factory.instantiate identifier = .ok start →
      ((currentManager plugin (session.within factory)).answer =
          .ok (some session.managers.length) ↔
        (Manager.prepare plugin host values (.ofState start)).answer = .ok ())
  error_iff : ∀ (factory : Factory sigma) (start : sigma) (error : ApiError),
    factory.instantiate identifier = .ok start →
      ((currentManager plugin (session.within factory)).answer = .error error ↔
        (Manager.prepare plugin host values (.ofState start)).answer = .error error)
  /-- Its settings are had exactly if it can be prepared and gives them. -/
  settings_iff : ∀ (factory : Factory sigma) (start : sigma) (saved : SessionSettings),
    factory.instantiate identifier = .ok start →
      let prepared := Manager.prepare plugin host values (.ofState start)
      ((settings plugin (session.within factory)).answer = .ok saved ↔
        prepared.answer = .ok () ∧ saved.identifier = some identifier ∧
          (Manager.settings plugin prepared.state).answer = .ok saved.settings)

/-- The settings of a manager that has to be made first. -/
theorem settings_iff_of_made {identifier : String} (idle : session.current = none)
    (named : session.selection.identifier = some identifier) {factory : Factory sigma}
    {start : sigma} (made : factory.instantiate identifier = .ok start)
    {saved : SessionSettings} :
    let prepared := session.prepareNew plugin start
    (settings plugin (session.within factory)).answer = .ok saved ↔
      prepared.answer = .ok () ∧ saved.identifier = some identifier ∧
        (Manager.settings plugin prepared.state).answer = .ok saved.settings := by
  intro prepared
  cases answer : (session.prepareNew plugin start).answer with
  | error error =>
      have failed : currentManager plugin (session.within factory) = _ :=
        currentManager_of_failed idle named made answer
      have unfound := congrArg Reply.answer failed
      rw [settings_of_error unfound]
      simp [prepared]
  | ok done =>
      have found : currentManager plugin (session.within factory) = _ :=
        currentManager_of_prepared idle named made answer
      have answered := congrArg Reply.answer found
      have held : (currentManager plugin (session.within factory)).state.managers[
          session.managers.length]? = some (session.prepareNew plugin start).state := by
        rw [found]
        exact List.getElem?_concat_length
      rw [settings_of_place answered held, found]
      change Except.map _ (Manager.settings plugin prepared.state).answer = _ ↔ _
      rcases saved with ⟨savedIdentifier, savedSettings⟩
      cases (Manager.settings plugin prepared.state).answer with
      | error ownError =>
          simp [Except.map]
      | ok values =>
          have selected : (session.within factory).selection.identifier =
              some identifier := named
          simp [Except.map, selected, eq_comm]

theorem startsOver_of_idle {identifier : String} (idle : session.current = none)
    (named : session.selection.identifier = some identifier) :
    StartsOver plugin session identifier session.host session.selection.settings := by
  have failed : ∀ (factory : Factory sigma) (start : sigma) (error : ApiError),
      factory.instantiate identifier = .ok start →
      (session.prepareNew plugin start).answer = .error error →
        currentManager plugin (session.within factory) =
          ⟨.error error,
            { session.within factory with
              managers := session.managers ++ [(session.prepareNew plugin start).state] },
            (session.prepareNew plugin start).messages⟩ :=
    fun factory start error made failed => currentManager_of_failed idle named made failed
  have succeeded : ∀ (factory : Factory sigma) (start : sigma),
      factory.instantiate identifier = .ok start →
      (session.prepareNew plugin start).answer = .ok () →
        currentManager plugin (session.within factory) =
          ⟨.ok (some session.managers.length),
            { session.within factory with
              managers := session.managers ++ [(session.prepareNew plugin start).state]
              current := some session.managers.length },
            (session.prepareNew plugin start).messages⟩ :=
    fun factory start made done => currentManager_of_prepared idle named made done
  constructor
  case unmade =>
      intro factory error refused
      exact currentManager_of_unmade idle named refused
  case made =>
      intro factory start made
      cases answer : (session.prepareNew plugin start).answer with
      | error error =>
          rw [failed factory start error made answer]
          rfl
      | ok done =>
          rw [succeeded factory start made answer]
          rfl
  case ok_iff =>
      intro factory start made
      change _ ↔ (session.prepareNew plugin start).answer = .ok ()
      cases answer : (session.prepareNew plugin start).answer with
      | error error =>
          rw [failed factory start error made answer]
          simp
      | ok done =>
          rw [succeeded factory start made answer]
          simp
  case error_iff =>
      intro factory start error made
      change _ ↔ (session.prepareNew plugin start).answer = .error error
      cases answer : (session.prepareNew plugin start).answer with
      | error other =>
          rw [failed factory start other made answer]
          simp
      | ok done =>
          rw [succeeded factory start made answer]
          simp
  case settings_iff =>
      intro factory start saved made
      exact settings_iff_of_made idle named made

end Session

/-! ## The law -/

/-- What is said of the failures of a session's calls. -/
structure FailureLaw (plugin : Plugin sigma pi) (factories : omega → Factory sigma)
    (change : delta → sigma → sigma) (session : Session sigma) : Prop where
  /-- Selecting what is not registered fails.  The selection, the manager in use and
  every manager that was made stay as they are, and no manager is asked for anything. -/
  unknown : ∀ (occasion : omega) (call : SessionCall) (identifier : String)
    (values : InfoDictionary),
    call.selection? = some ⟨some identifier, values⟩ →
    (factories occasion).isRegistered identifier = false →
      call.request plugin (session.within (factories occasion)) =
        ⟨.error (.configuration ("Unknown manager '" ++ identifier ++ "'")),
          session.within (factories occasion), []⟩
  /-- A configuration without a manager selects nothing and changes nothing. -/
  unconfigured : ∀ (occasion : omega) (config : AppConfig), config.manager = none →
    Session.useConfiguredManager config (session.within (factories occasion)) =
      ⟨.ok false, session.within (factories occasion), []⟩
  /-- If the selected manager cannot be made or prepared the call fails with that error.
  The selection stays, no manager is in use, and no manager that was made before has
  changed. -/
  unfound : ∀ (occasion : omega) (call : SessionCall) (error : ApiError),
    call.asks = true →
    (Session.currentManager plugin (session.within (factories occasion))).answer =
        .error error →
      let reply := call.request plugin (session.within (factories occasion))
      reply.answer = .error error ∧ reply.state.selection = session.selection ∧
        reply.state.current = none ∧
        ∃ identifier, session.selection.identifier = some identifier ∧
          ((factories occasion).instantiate identifier = .error error ∧
              reply.state.managers = session.managers ∨
            ∃ start, (factories occasion).instantiate identifier = .ok start ∧
              (session.prepareNew plugin start).answer = .error error ∧
              reply.state.managers =
                session.managers ++ [(session.prepareNew plugin start).state]) ∧
          reply.state.StartsOver plugin identifier session.host
            session.selection.settings
  /-- If the manager is found and cannot give its settings the selection stays, and the
  manager is in use, prepared as it was. -/
  ungiven : ∀ (occasion : omega) (error : ApiError),
    let found := Session.currentManager plugin (session.within (factories occasion))
    let reply := Session.settings plugin (session.within (factories occasion))
    reply.answer = .error error → (∀ other, found.answer ≠ .error other) →
      reply.state.selection = session.selection ∧
        ∃ place manager, found.answer = .ok (some place) ∧
          found.state.managers[place]? = some manager ∧
          (Manager.settings plugin manager).answer = .error error ∧
          reply.state.current = some place ∧
          reply.state.managers =
            found.state.managers.set place (Manager.settings plugin manager).state ∧
          reply.state.Prepared plugin factories change
            (Manager.settings plugin manager).state
  /-- A call fails for no other reason. -/
  reasons : ∀ (occasion : omega) (call : SessionCall) (error : ApiError),
    (call.request plugin (session.within (factories occasion))).answer = .error error →
      let found := Session.currentManager plugin (session.within (factories occasion))
      (∃ identifier values, call.selection? = some ⟨some identifier, values⟩ ∧
          (factories occasion).isRegistered identifier = false) ∨
        (call.asks = true ∧ found.answer = .error error) ∨
        (call = .settings ∧ (∀ other, found.answer ≠ .error other) ∧
          (Session.settings plugin (session.within (factories occasion))).answer =
            .error error)

namespace Session

/-- What is left when the selected manager cannot be had. -/
theorem request_of_unfound (asks : call.asks = true)
    (failed : (currentManager plugin session).answer = .error error) :
    let reply := call.request plugin session
    reply.answer = .error error ∧ reply.state.selection = session.selection ∧
      reply.state.current = none ∧
      ∃ identifier, session.selection.identifier = some identifier ∧
        (session.factory.instantiate identifier = .error error ∧
            reply.state.managers = session.managers ∨
          ∃ start, session.factory.instantiate identifier = .ok start ∧
            (session.prepareNew plugin start).answer = .error error ∧
            reply.state.managers =
              session.managers ++ [(session.prepareNew plugin start).state]) ∧
        reply.state.StartsOver plugin identifier session.host
          session.selection.settings := by
  intro reply
  have replied : reply = _ := SessionCall.request_of_unfound asks failed
  rw [replied]
  have finds := finds plugin session
  generalize currentManager plugin session = found at finds failed
  cases finds with
  | unmade idle named refused =>
      cases failed
      exact ⟨rfl, rfl, idle, _, named, Or.inl ⟨refused, rfl⟩,
        startsOver_of_idle idle named⟩
  | @unprepared identifier start _ idle named made unprepared =>
      cases failed
      have startsOver : StartsOver plugin
          { session with
            managers := session.managers ++ [(session.prepareNew plugin start).state] }
          identifier session.host session.selection.settings :=
        startsOver_of_idle idle named
      exact ⟨rfl, rfl, idle, identifier, named, Or.inr ⟨start, made, unprepared, rfl⟩,
        startsOver⟩
  | _ =>
      cases failed

/-- What is left when the manager cannot give its settings. -/
theorem settings_of_ungiven {occasion : omega}
    (sound : session.InUse plugin factories change)
    (failed : (settings plugin (session.within (factories occasion))).answer =
      .error error)
    (found : ∀ other,
      (currentManager plugin (session.within (factories occasion))).answer ≠
        .error other) :
    let found := currentManager plugin (session.within (factories occasion))
    let reply := settings plugin (session.within (factories occasion))
    reply.state.selection = session.selection ∧
      ∃ place manager, found.answer = .ok (some place) ∧
        found.state.managers[place]? = some manager ∧
        (Manager.settings plugin manager).answer = .error error ∧
        reply.state.current = some place ∧
        reply.state.managers =
          found.state.managers.set place (Manager.settings plugin manager).state ∧
        reply.state.Prepared plugin factories change
          (Manager.settings plugin manager).state := by
  intro foundReply reply
  obtain ⟨place, manager, answered, held, own⟩ := settings_error_of_found failed found
  have replied : reply = _ := settings_of_place answered held
  have selection := (selection_currentManager plugin
    (session.within (factories occasion))).1
  -- The manager in use after the call is the one that was found, in its new state.
  have soundThen := sound.request occasion .settings
  have current : reply.state.current = some place := by
    rw [replied]
    exact current_of_found answered
  have managers : reply.state.managers = foundReply.state.managers.set place
      (Manager.settings plugin manager).state := by
    rw [replied]
  obtain ⟨used, heldThen, prepared⟩ := soundThen place current
  have inside := (List.getElem?_eq_some_iff.1 held).1
  have same : used = (Manager.settings plugin manager).state := by
    change reply.state.managers[place]? = some used at heldThen
    rw [managers, List.getElem?_set_self inside] at heldThen
    exact (Option.some.inj heldThen).symm
  refine ⟨?_, place, manager, answered, held, own, current, managers, ?_⟩
  · rw [replied]
    exact selection
  · rw [← same]
    exact prepared

end Session

/-- Calls of a session are atomic when they fail, in every session that a host can hold,
whatever the managers and the factories do. -/
theorem failed_calls_atomic (plugin : Plugin sigma pi) (factories : omega → Factory sigma)
    (change : delta → sigma → sigma) (session : Session sigma)
    (reached : session.Reached plugin factories change) :
    FailureLaw plugin factories change session := by
  constructor
  case unknown =>
      intro occasion call identifier values selects unregistered
      rw [SessionCall.request_of_selection plugin selects]
      exact Session.useManager_of_unregistered unregistered values
  case unconfigured =>
      intro occasion config none
      simp only [Session.useConfiguredManager, none]
      rfl
  case unfound =>
      intro occasion call error asks failed
      exact Session.request_of_unfound asks failed
  case ungiven =>
      intro occasion error found reply failed others
      exact Session.settings_of_ungiven reached.inUse failed others
  case reasons =>
      intro occasion call error failed found
      cases asks : call.asks with
      | false =>
          exact Or.inl (SessionCall.unregistered_of_error asks failed)
      | true =>
          right
          cases call with
          | currentManager =>
              left
              refine ⟨rfl, ?_⟩
              change (Except.map _ found.answer) = _ at failed
              cases answer : found.answer with
              | error other =>
                  rw [answer] at failed
                  cases failed
                  rfl
              | ok place =>
                  rw [answer] at failed
                  cases failed
          | settings =>
              have settingsFailed : (Session.settings plugin
                  (session.within (factories occasion))).answer = .error error := by
                change (Except.map _ (Session.settings plugin
                  (session.within (factories occasion))).answer) = _ at failed
                cases answer : (Session.settings plugin
                    (session.within (factories occasion))).answer with
                | error other =>
                    rw [answer] at failed
                    cases failed
                    rfl
                | ok saved =>
                    rw [answer] at failed
                    cases failed
              cases answer : found.answer with
              | error other =>
                  left
                  rw [Session.settings_of_error answer] at settingsFailed
                  cases settingsFailed
                  exact ⟨rfl, rfl⟩
              | ok place =>
                  right
                  have notFailed : ∀ other, (.ok place : Outcome (Option Nat)) ≠ .error other := by
                    rintro other ⟨⟩
                  exact ⟨rfl, notFailed, settingsFailed⟩
          | _ =>
              cases asks

/-- A session for which catalogues are made that refuse to be prepared on some occasions,
with one of them selected. -/
def stockSelected : Session Catalogue :=
  ((SessionCall.useManager "stock" .empty).request Catalogue.plugin
    (.within (.start ⟨"org.studio", "Studio", .empty⟩ (unreliable.on true).toFactory)
      (unreliable.on true).toFactory)).state

/-- The manager cannot be prepared at first.  The next call makes another one. -/
theorem failed_calls_atomic_offline :
    let factories := fun reachable => (unreliable.on reachable).toFactory
    let change := fun (_ : Unit) (catalogue : Catalogue) => catalogue
    let failed := SessionCall.settings.request Catalogue.plugin
      (stockSelected.within (factories false))
    stockSelected.Reached Catalogue.plugin factories change ∧
      failed.answer = .error (.unhandled "offline") ∧
      failed.state.selection = ⟨some "stock", .empty⟩ ∧ failed.state.current = none ∧
      (Session.currentManager Catalogue.plugin
        (failed.state.within (factories true))).answer = .ok (some 1) := by
  intro factories change failed
  have reached : stockSelected.Reached Catalogue.plugin factories change :=
    .called (.start _ true) true (.useManager "stock" .empty)
  have law := failed_calls_atomic Catalogue.plugin factories change stockSelected reached
  have refused : (Session.currentManager Catalogue.plugin
      (stockSelected.within (factories false))).answer = .error (.unhandled "offline") := by
    decide
  obtain ⟨answer, selection, idle, identifier, named, _, startsOver⟩ :=
    law.unfound false .settings _ rfl refused
  obtain rfl : "stock" = identifier := Option.some.inj named
  have made : (factories true).instantiate "stock" = .ok (Catalogue.named "stock") := rfl
  exact ⟨reached, answer, selection, idle, (startsOver.ok_iff _ _ made).2 (by decide)⟩

end AssetExchange
