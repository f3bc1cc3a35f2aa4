import AssetExchange.Session.Basic

/-!
# What the calls of a session do

`SessionCall` lists the calls with which a host selects a manager and gets it.  The
managers come from constructors, each of which may make a different manager on every
occasion; a `SessionStep` is a call and the occasion on which it is made.

`SessionMove` says once what a step can do to a session, and `Session.Sound.move` that
every step of a sound session is one of these moves.  Facts about steps and runs are
derived from the moves.
-/

namespace AssetExchange

variable {sigma pi delta : Type}

/-! ## Constructors -/

namespace Registry

variable {constructors : Registry (delta → sigma)} {identifier : String}

/-- The managers that constructors make on one occasion. -/
def on (constructors : Registry (delta → sigma)) (occasion : delta) : Registry sigma :=
  ⟨constructors.makers.map (· occasion)⟩

/-- Whether a selection is empty or names a manager that is registered. -/
def admits (constructors : Registry (delta → sigma)) (selection : SessionSettings) :
    Bool :=
  selection.identifier.all constructors.isRegistered

theorem isRegistered_on (constructors : Registry (delta → sigma)) (occasion : delta)
    (identifier : String) :
    (constructors.on occasion).isRegistered identifier =
      constructors.isRegistered identifier := by
  simp only [isRegistered, on, Dictionary.contains, Dictionary.get?_map,
    Option.isSome_map]

theorem isRegistered_iff :
    constructors.isRegistered identifier = true ↔
      ∃ maker, constructors.makers.get? identifier = some maker :=
  Option.isSome_iff_exists

theorem instantiate_on {maker : delta → sigma}
    (registered : constructors.makers.get? identifier = some maker) (occasion : delta) :
    (constructors.on occasion).instantiate identifier = .ok (maker occasion) := by
  simp only [instantiate, on, Dictionary.get?_map, registered, Option.map_some]

end Registry

def Session.on (constructors : Registry (delta → sigma)) (occasion : delta)
    (session : Session sigma) : Session sigma :=
  { session with factory := (constructors.on occasion).toFactory }

/-! ## Calls -/

/-- A call with which a host selects a manager or gets the selected one. -/
inductive SessionCall
  | useManager (identifier : String) (settings : InfoDictionary)
  | useConfiguredManager (config : AppConfig)
  | currentManager
  | settings
  | setSettings (settings : SessionSettings)

/-- A call and the occasion on which it is made. -/
structure SessionStep (delta : Type) where
  occasion : delta
  call : SessionCall

namespace SessionCall

/-- Makes the call.  Of its answer only an error is kept. -/
def request (plugin : Plugin sigma pi) :
    SessionCall → Request (Session sigma) (Outcome Unit)
  | useManager identifier values => Session.useManager identifier values
  | useConfiguredManager config => fun session =>
      (Session.useConfiguredManager config session).mapOk fun _ => ()
  | currentManager => fun session =>
      (Session.currentManager plugin session).mapOk fun _ => ()
  | settings => fun session => (Session.settings plugin session).mapOk fun _ => ()
  | setSettings selection => Session.setSettings selection

def asks : SessionCall → Bool
  | currentManager => true
  | settings => true
  | _ => false

def selection? : SessionCall → Option SessionSettings
  | useManager identifier values => some ⟨some identifier, values⟩
  | useConfiguredManager config =>
      config.manager.map fun manager => ⟨some manager.identifier, manager.settings⟩
  | setSettings ⟨some identifier, values⟩ => some ⟨some identifier, values⟩
  | setSettings ⟨none, _⟩ => some .empty
  | _ => none

/-- What the call selects if it succeeds in selecting. -/
def selected? (constructors : Registry (delta → sigma)) (call : SessionCall) :
    Option SessionSettings :=
  call.selection?.filter constructors.admits

/-- What the call does to the manager in use. -/
def leave (plugin : Plugin sigma pi) : SessionCall → Manager sigma → Manager sigma
  | settings, manager => (Manager.settings plugin manager).state
  | _, manager => manager

end SessionCall

def SessionStep.after (plugin : Plugin sigma pi) (constructors : Registry (delta → sigma))
    (step : SessionStep delta) (session : Session sigma) : Session sigma :=
  (step.call.request plugin (session.on constructors step.occasion)).state

def runSteps (plugin : Plugin sigma pi) (constructors : Registry (delta → sigma))
    (steps : List (SessionStep delta)) (session : Session sigma) : Session sigma :=
  steps.foldl (fun held step => step.after plugin constructors held) session

/-! ## Selecting -/

namespace Session

theorem useManager_of_registered {session : Session sigma} {identifier : String}
    (registered : session.factory.isRegistered identifier = true)
    (settings : InfoDictionary) :
    useManager identifier settings session =
      ⟨.ok (), { session with selection := ⟨some identifier, settings⟩, current := none },
        []⟩ := by
  rw [useManager, if_pos registered]

theorem useManager_of_unregistered {session : Session sigma} {identifier : String}
    (unregistered : session.factory.isRegistered identifier = false)
    (settings : InfoDictionary) :
    useManager identifier settings session =
      ⟨.error (Fault.unknownManager identifier).toError, session, []⟩ := by
  rw [useManager, if_neg (by simp [unregistered])]

end Session

namespace SessionCall

variable {constructors : Registry (delta → sigma)} {call : SessionCall}

theorem request_of_selection (plugin : Plugin sigma pi) {identifier : String}
    {settings : InfoDictionary}
    (selects : call.selection? = some ⟨some identifier, settings⟩)
    (session : Session sigma) :
    call.request plugin session = Session.useManager identifier settings session := by
  cases call with
  | useManager named values =>
      cases selects
      rfl
  | useConfiguredManager config =>
      obtain ⟨manager, configured, same⟩ := Option.map_eq_some_iff.1 selects
      cases same
      simp only [request, Session.useConfiguredManager, configured]
      rcases Session.useManager manager.identifier manager.settings session with
        ⟨_ | _, _, _⟩ <;> rfl
  | currentManager =>
      cases selects
  | settings =>
      cases selects
  | setSettings values =>
      rcases values with ⟨_ | named, values⟩ <;> cases selects
      rfl

/-- Only clearing the selection selects without naming a manager. -/
theorem eq_setSettings_of_selection {settings : InfoDictionary}
    (selects : call.selection? = some ⟨none, settings⟩) :
    settings = .empty ∧ ∃ values, call = setSettings ⟨none, values⟩ := by
  cases call with
  | useConfiguredManager config =>
      obtain ⟨manager, _, same⟩ := Option.map_eq_some_iff.1 selects
      cases same
  | setSettings values =>
      rcases values with ⟨_ | named, values⟩ <;> cases selects
      exact ⟨rfl, values, rfl⟩
  | _ =>
      cases selects

/-- A selection that succeeds replaces the former one and lets the manager in use go,
even if it selects the same once more.  It makes no manager and asks none. -/
theorem request_of_selected (plugin : Plugin sigma pi) {selection : SessionSettings}
    (selects : call.selected? constructors = some selection)
    (session : Session sigma) (occasion : delta) :
    call.request plugin (session.on constructors occasion) =
      ⟨.ok (),
        { session.on constructors occasion with selection := selection, current := none },
        []⟩ := by
  obtain ⟨asked, admitted⟩ := Option.filter_eq_some_iff.1 selects
  rcases selection with ⟨_ | identifier, settings⟩
  · obtain ⟨rfl, values, rfl⟩ := eq_setSettings_of_selection asked
    rfl
  · rw [request_of_selection plugin asked]
    exact Session.useManager_of_registered
      ((constructors.isRegistered_on occasion identifier).trans admitted) settings

/-- A selection that fails names a manager that is not registered, and changes
nothing. -/
theorem request_of_refused (plugin : Plugin sigma pi) {selection : SessionSettings}
    (asked : call.selection? = some selection)
    (refused : call.selected? constructors = none)
    (session : Session sigma) (occasion : delta) :
    ∃ identifier, selection.identifier = some identifier ∧
      constructors.isRegistered identifier = false ∧
      call.request plugin (session.on constructors occasion) =
        ⟨.error (.configuration ("Unknown manager '" ++ identifier ++ "'")),
          session.on constructors occasion, []⟩ := by
  rw [selected?, asked] at refused
  have notAdmitted := (Option.filter_eq_none_iff.1 refused) selection rfl
  rcases selection with ⟨_ | identifier, settings⟩
  · exact absurd rfl notAdmitted
  · have unregistered : constructors.isRegistered identifier = false :=
      Bool.eq_false_iff.2 notAdmitted
    refine ⟨identifier, rfl, unregistered, ?_⟩
    rw [request_of_selection plugin asked]
    exact Session.useManager_of_unregistered
      ((constructors.isRegistered_on occasion identifier).trans unregistered) settings

/-- A call that neither selects nor asks for a manager changes nothing. -/
theorem request_of_neither (plugin : Plugin sigma pi) (asked : call.selection? = none)
    (other : call.asks = false) (session : Session sigma) :
    call.request plugin session = ⟨.ok (), session, []⟩ := by
  cases call with
  | useConfiguredManager config =>
      have unconfigured := Option.map_eq_none_iff.1 asked
      simp only [request, Session.useConfiguredManager, unconfigured]
      rfl
  | setSettings values =>
      rcases values with ⟨_ | named, values⟩ <;> cases asked
  | useManager named values =>
      cases asked
  | currentManager =>
      cases other
  | settings =>
      cases other

end SessionCall

/-! ## Getting the selected manager -/

namespace Session

variable {plugin : Plugin sigma pi} {session : Session sigma}

/-- Preparing a new manager for the selection. -/
def prepareNew (plugin : Plugin sigma pi) (session : Session sigma) (start : sigma) :
    Reply (Manager sigma) (Outcome Unit) :=
  Manager.prepare plugin session.host session.selection.settings (.ofState start)

theorem currentManager_of_current {place : Nat} (inUse : session.current = some place) :
    currentManager plugin session = ⟨.ok (some place), session, []⟩ := by
  simp only [currentManager, inUse]

theorem currentManager_of_unselected (idle : session.current = none)
    (unselected : session.selection.identifier = none) :
    currentManager plugin session = ⟨.ok none, session, []⟩ := by
  simp only [currentManager, idle, unselected]

theorem currentManager_of_unmade {identifier : String} {error : ApiError}
    (idle : session.current = none)
    (named : session.selection.identifier = some identifier)
    (refused : session.factory.instantiate identifier = .error error) :
    currentManager plugin session = ⟨.error error, session, []⟩ := by
  simp only [currentManager, idle, named, refused]

section New

variable {identifier : String} {start : sigma}

theorem currentManager_of_failed {error : ApiError} (idle : session.current = none)
    (selected : session.selection.identifier = some identifier)
    (made : session.factory.instantiate identifier = .ok start)
    (failed : (prepareNew plugin session start).answer = .error error) :
    currentManager plugin session =
      ⟨.error error,
        { session with
          managers := session.managers ++ [(prepareNew plugin session start).state] },
        (prepareNew plugin session start).messages⟩ := by
  unfold prepareNew at failed
  simp only [currentManager, idle, selected, made, failed]
  rfl

theorem currentManager_of_prepared (idle : session.current = none)
    (selected : session.selection.identifier = some identifier)
    (made : session.factory.instantiate identifier = .ok start)
    (prepared : (prepareNew plugin session start).answer = .ok ()) :
    currentManager plugin session =
      ⟨.ok (some session.managers.length),
        { session with
          managers := session.managers ++ [(prepareNew plugin session start).state]
          current := some session.managers.length },
        (prepareNew plugin session start).messages⟩ := by
  unfold prepareNew at prepared
  simp only [currentManager, idle, selected, made, prepared]
  rfl

end New

/-- How any session answers that is asked for the selected manager. -/
inductive Finds (plugin : Plugin sigma pi) (session : Session sigma) :
    Reply (Session sigma) (Outcome (Option Nat)) → Prop
  | unselected (idle : session.current = none)
      (unnamed : session.selection.identifier = none) :
      Finds plugin session ⟨.ok none, session, []⟩
  | inUse {place : Nat} (inUse : session.current = some place) :
      Finds plugin session ⟨.ok (some place), session, []⟩
  /-- The factory makes no manager. -/
  | unmade {identifier : String} {error : ApiError} (idle : session.current = none)
      (named : session.selection.identifier = some identifier)
      (refused : session.factory.instantiate identifier = .error error) :
      Finds plugin session ⟨.error error, session, []⟩
  /-- A new manager cannot be prepared. -/
  | unprepared {identifier : String} {start : sigma} {error : ApiError}
      (idle : session.current = none)
      (named : session.selection.identifier = some identifier)
      (made : session.factory.instantiate identifier = .ok start)
      (failed : (session.prepareNew plugin start).answer = .error error) :
      Finds plugin session
        ⟨.error error,
          { session with
            managers := session.managers ++ [(session.prepareNew plugin start).state] },
          (session.prepareNew plugin start).messages⟩
  | prepared {identifier : String} {start : sigma} (idle : session.current = none)
      (named : session.selection.identifier = some identifier)
      (made : session.factory.instantiate identifier = .ok start)
      (succeeded : (session.prepareNew plugin start).answer = .ok ()) :
      Finds plugin session
        ⟨.ok (some session.managers.length),
          { session with
            managers := session.managers ++ [(session.prepareNew plugin start).state]
            current := some session.managers.length },
          (session.prepareNew plugin start).messages⟩

theorem finds (plugin : Plugin sigma pi) (session : Session sigma) :
    Finds plugin session (currentManager plugin session) := by
  cases inUse : session.current with
  | some place =>
      rw [currentManager_of_current inUse]
      exact .inUse inUse
  | none =>
      cases named : session.selection.identifier with
      | none =>
          rw [currentManager_of_unselected inUse named]
          exact .unselected inUse named
      | some identifier =>
          cases made : session.factory.instantiate identifier with
          | error error =>
              rw [currentManager_of_unmade inUse named made]
              exact .unmade inUse named made
          | ok start =>
              cases answer : (session.prepareNew plugin start).answer with
              | error error =>
                  rw [currentManager_of_failed inUse named made answer]
                  exact .unprepared inUse named made answer
              | ok done =>
                  rw [currentManager_of_prepared inUse named made answer]
                  exact .prepared inUse named made answer

theorem settings_of_error {error : ApiError}
    (failed : (currentManager plugin session).answer = .error error) :
    settings plugin session =
      ⟨.error error, (currentManager plugin session).state,
        (currentManager plugin session).messages⟩ := by
  simp only [settings, Reply.bindOk, failed]

theorem settings_of_none (nothing : (currentManager plugin session).answer = .ok none) :
    settings plugin session =
      ⟨.ok .empty, (currentManager plugin session).state,
        (currentManager plugin session).messages ++ []⟩ := by
  simp only [settings, Reply.bindOk, nothing]
  rfl

theorem settings_of_place {place : Nat} {manager : Manager sigma}
    (found : (currentManager plugin session).answer = .ok (some place))
    (held : (currentManager plugin session).state.managers[place]? = some manager) :
    settings plugin session =
      ⟨(Manager.settings plugin manager).answer.map fun values =>
          ⟨(currentManager plugin session).state.selection.identifier, values⟩,
        { (currentManager plugin session).state with
          managers := (currentManager plugin session).state.managers.set place
            (Manager.settings plugin manager).state },
        (currentManager plugin session).messages ++
          (Manager.settings plugin manager).messages⟩ := by
  simp only [settings, Reply.bindOk, found, askManager, held]
  rfl

end Session

namespace SessionCall

variable {plugin : Plugin sigma pi} {session : Session sigma} {call : SessionCall}

theorem selected?_of_asks (constructors : Registry (delta → sigma))
    (asks : call.asks = true) : call.selected? constructors = none := by
  cases call with
  | currentManager =>
      rfl
  | settings =>
      rfl
  | _ =>
      cases asks

theorem state_request_of_nothing (asks : call.asks = true)
    (nothing : ∀ place, (Session.currentManager plugin session).answer ≠ .ok (some place)) :
    (call.request plugin session).state =
      (Session.currentManager plugin session).state := by
  cases call with
  | currentManager =>
      rfl
  | settings =>
      change (Session.settings plugin session).state = _
      cases answer : (Session.currentManager plugin session).answer with
      | error error =>
          rw [Session.settings_of_error answer]
      | ok found =>
          cases found with
          | none =>
              rw [Session.settings_of_none answer]
          | some place =>
              exact absurd answer (nothing place)
  | _ =>
      cases asks

/-- A call that finds a manager does no more to it than it says. -/
theorem state_request_of_place (asks : call.asks = true) {place : Nat}
    {manager : Manager sigma}
    (found : (Session.currentManager plugin session).answer = .ok (some place))
    (held : (Session.currentManager plugin session).state.managers[place]? =
      some manager) :
    (call.request plugin session).state =
      { (Session.currentManager plugin session).state with
        managers := (Session.currentManager plugin session).state.managers.set place
          (call.leave plugin manager) } := by
  cases call with
  | currentManager =>
      obtain ⟨inside, rfl⟩ := List.getElem?_eq_some_iff.1 held
      change _ = { (Session.currentManager plugin session).state with
        managers := (Session.currentManager plugin session).state.managers.set place
          (Session.currentManager plugin session).state.managers[place] }
      rw [List.set_getElem_self]
      rfl
  | settings =>
      change (Session.settings plugin session).state = _
      rw [Session.settings_of_place found held]
      rfl
  | _ =>
      cases asks

end SessionCall

/-! ## Sound sessions -/

/-- What is true of a session at any time. -/
structure Session.Sound (constructors : Registry (delta → sigma))
    (session : Session sigma) : Prop where
  registered : ∀ identifier, session.selection.identifier = some identifier →
    constructors.isRegistered identifier = true
  unselected : session.selection.identifier = none →
    session.selection = .empty ∧ session.current = none
  held : ∀ place, session.current = some place → place < session.managers.length

/-- How a session answers that is asked for the selected manager. -/
inductive Gets (plugin : Plugin sigma pi) (constructors : Registry (delta → sigma))
    (occasion : delta) (session : Session sigma) :
    Reply (Session sigma) (Outcome (Option Nat)) → Prop
  | unselected (idle : session.current = none)
      (unnamed : session.selection.identifier = none) :
      Gets plugin constructors occasion session
        ⟨.ok none, session.on constructors occasion, []⟩
  | inUse {place : Nat} {manager : Manager sigma} (inUse : session.current = some place)
      (held : session.managers[place]? = some manager) :
      Gets plugin constructors occasion session
        ⟨.ok (some place), session.on constructors occasion, []⟩
  /-- A new manager is made and cannot be prepared. -/
  | failed {identifier : String} {maker : delta → sigma} {error : ApiError}
      (idle : session.current = none)
      (named : session.selection.identifier = some identifier)
      (registered : constructors.makers.get? identifier = some maker)
      (failed : (session.prepareNew plugin (maker occasion)).answer = .error error) :
      Gets plugin constructors occasion session
        ⟨.error error,
          { session.on constructors occasion with
            managers :=
              session.managers ++ [(session.prepareNew plugin (maker occasion)).state] },
          (session.prepareNew plugin (maker occasion)).messages⟩
  /-- A new manager is made and prepared. -/
  | prepared {identifier : String} {maker : delta → sigma}
      (idle : session.current = none)
      (named : session.selection.identifier = some identifier)
      (registered : constructors.makers.get? identifier = some maker)
      (prepared : (session.prepareNew plugin (maker occasion)).answer = .ok ()) :
      Gets plugin constructors occasion session
        ⟨.ok (some session.managers.length),
          { session.on constructors occasion with
            managers :=
              session.managers ++ [(session.prepareNew plugin (maker occasion)).state]
            current := some session.managers.length },
          (session.prepareNew plugin (maker occasion)).messages⟩

theorem Session.Sound.gets {session : Session sigma}
    {constructors : Registry (delta → sigma)} (sound : session.Sound constructors)
    (plugin : Plugin sigma pi) (occasion : delta) :
    Gets plugin constructors occasion session
      (Session.currentManager plugin (session.on constructors occasion)) := by
  have finds := Session.finds plugin (session.on constructors occasion)
  generalize Session.currentManager plugin (session.on constructors occasion) = reply at finds
  -- A manager that is selected is registered, so there is one to make.
  have making : ∀ identifier, session.selection.identifier = some identifier →
      ∃ maker, constructors.makers.get? identifier = some maker ∧
        (session.on constructors occasion).factory.instantiate identifier =
          .ok (maker occasion) := by
    intro identifier named
    obtain ⟨maker, registered⟩ :=
      Registry.isRegistered_iff.1 (sound.registered identifier named)
    exact ⟨maker, registered, Registry.instantiate_on registered occasion⟩
  cases finds with
  | unselected idle unnamed =>
      exact .unselected idle unnamed
  | inUse inUse =>
      exact .inUse inUse (List.getElem?_eq_getElem (sound.held _ inUse))
  | unmade idle named refused =>
      obtain ⟨maker, _, made⟩ := making _ named
      cases refused.symm.trans made
  | unprepared idle named made failed =>
      obtain ⟨maker, registered, madeToo⟩ := making _ named
      obtain rfl := Except.ok.inj (made.symm.trans madeToo)
      exact .failed idle named registered failed
  | prepared idle named made succeeded =>
      obtain ⟨maker, registered, madeToo⟩ := making _ named
      obtain rfl := Except.ok.inj (made.symm.trans madeToo)
      exact .prepared idle named registered succeeded

/-! ## Moves -/

/-- What a step can do to a session. -/
inductive SessionMove (plugin : Plugin sigma pi) (constructors : Registry (delta → sigma))
    (step : SessionStep delta) (session : Session sigma) : Session sigma → Prop
  /-- A selection succeeds. -/
  | selected {selection : SessionSettings}
      (selects : step.call.selected? constructors = some selection) :
      SessionMove plugin constructors step session
        { session.on constructors step.occasion with
          selection := selection
          current := none }
  /-- Nothing happens: the call neither selects nor gets a manager. -/
  | rest (selects : step.call.selected? constructors = none)
      (nothing : step.call.asks = true →
        session.selection.identifier = none ∧ session.current = none) :
      SessionMove plugin constructors step session (session.on constructors step.occasion)
  /-- The manager in use is used. -/
  | used {place : Nat} {manager : Manager sigma} (asks : step.call.asks = true)
      (inUse : session.current = some place)
      (held : session.managers[place]? = some manager) :
      SessionMove plugin constructors step session
        { session.on constructors step.occasion with
          managers := session.managers.set place (step.call.leave plugin manager) }
  /-- A new manager is made and cannot be prepared. -/
  | failed {identifier : String} {maker : delta → sigma} {error : ApiError}
      (asks : step.call.asks = true) (idle : session.current = none)
      (named : session.selection.identifier = some identifier)
      (registered : constructors.makers.get? identifier = some maker)
      (failed : (session.prepareNew plugin (maker step.occasion)).answer = .error error) :
      SessionMove plugin constructors step session
        { session.on constructors step.occasion with
          managers :=
            session.managers ++ [(session.prepareNew plugin (maker step.occasion)).state] }
  /-- A new manager is made, prepared and used. -/
  | prepared {identifier : String} {maker : delta → sigma}
      (asks : step.call.asks = true) (idle : session.current = none)
      (named : session.selection.identifier = some identifier)
      (registered : constructors.makers.get? identifier = some maker)
      (prepared : (session.prepareNew plugin (maker step.occasion)).answer = .ok ()) :
      SessionMove plugin constructors step session
        { session.on constructors step.occasion with
          managers := session.managers ++
            [step.call.leave plugin
              (session.prepareNew plugin (maker step.occasion)).state]
          current := some session.managers.length }

variable {plugin : Plugin sigma pi} {constructors : Registry (delta → sigma)}
  {step : SessionStep delta} {session later : Session sigma}

theorem Session.Sound.move_of_asks (sound : session.Sound constructors)
    (asks : step.call.asks = true) :
    SessionMove plugin constructors step session (step.after plugin constructors session) := by
  have gets := sound.gets plugin step.occasion
  unfold SessionStep.after
  generalize answered :
    Session.currentManager plugin (session.on constructors step.occasion) = reply at gets
  cases gets with
  | unselected idle unnamed =>
      rw [SessionCall.state_request_of_nothing asks (by simp [answered]), answered]
      exact .rest (SessionCall.selected?_of_asks constructors asks) fun _ => ⟨unnamed, idle⟩
  | inUse inUse held =>
      rw [SessionCall.state_request_of_place asks (congrArg Reply.answer answered)
        (by rw [answered]; exact held), answered]
      exact .used asks inUse held
  | failed idle named registered failed =>
      rw [SessionCall.state_request_of_nothing asks (by simp [answered]), answered]
      exact .failed asks idle named registered failed
  | @prepared _ maker idle named registered prepared =>
      rw [SessionCall.state_request_of_place asks (congrArg Reply.answer answered)
        (by rw [answered]; exact List.getElem?_concat_length), answered]
      -- The new manager is the last one, and the call may already have used it.
      have placed : ∀ former manager : Manager sigma,
          (session.managers ++ [former]).set session.managers.length manager =
            session.managers ++ [manager] := by
        intro former manager
        rw [List.set_append_right _ _ (Nat.le_refl _), Nat.sub_self]
        rfl
      have move : SessionMove plugin constructors step session _ :=
        .prepared asks idle named registered prepared
      rw [← placed (session.prepareNew plugin (maker step.occasion)).state] at move
      exact move

/-- Every step of a sound session is a move. -/
theorem Session.Sound.move (sound : session.Sound constructors)
    (plugin : Plugin sigma pi) (step : SessionStep delta) :
    SessionMove plugin constructors step session (step.after plugin constructors session) := by
  cases asks : step.call.asks with
  | true =>
      exact sound.move_of_asks asks
  | false =>
      cases selects : step.call.selected? constructors with
      | some selection =>
          rw [SessionStep.after, SessionCall.request_of_selected plugin selects]
          exact .selected selects
      | none =>
          have unchanged : step.after plugin constructors session =
              session.on constructors step.occasion := by
            unfold SessionStep.after
            cases asked : step.call.selection? with
            | none =>
                rw [SessionCall.request_of_neither plugin asked asks]
            | some selection =>
                obtain ⟨_, _, _, refused⟩ := SessionCall.request_of_refused plugin asked
                  selects session step.occasion
                rw [refused]
          rw [unchanged]
          exact .rest selects fun impossible => by rw [asks] at impossible; cases impossible

theorem Session.sound_start (constructors : Registry (delta → sigma)) (host : Host)
    (factory : Factory sigma) : (Session.start host factory).Sound constructors where
  registered := fun _ impossible => by cases impossible
  unselected := fun _ => ⟨rfl, rfl⟩
  held := fun _ impossible => by cases impossible

theorem Session.Sound.of_move (sound : session.Sound constructors)
    (move : SessionMove plugin constructors step session later) :
    later.Sound constructors := by
  cases move with
  | selected selects =>
      rename_i selection
      obtain ⟨asked, admitted⟩ := Option.filter_eq_some_iff.1 selects
      refine ⟨fun identifier named => ?_, fun unnamed => ⟨?_, rfl⟩, fun _ inUse => ?_⟩
      · rw [Registry.admits, show selection.identifier = some identifier from named]
          at admitted
        exact admitted
      · rcases selection with ⟨_ | identifier, settings⟩
        · rw [(SessionCall.eq_setSettings_of_selection asked).1]
          rfl
        · cases unnamed
      · cases inUse
  | rest =>
      exact ⟨sound.registered, sound.unselected, sound.held⟩
  | used asks inUse held =>
      refine ⟨sound.registered, sound.unselected, fun place found => ?_⟩
      rw [List.length_set]
      exact sound.held place found
  | failed asks idle named registered failed =>
      refine ⟨sound.registered, sound.unselected, fun place found => ?_⟩
      cases idle.symm.trans found
  | prepared asks idle named registered prepared =>
      refine ⟨sound.registered, fun unnamed => ?_, fun place found => ?_⟩
      · cases named.symm.trans unnamed
      · cases found
        simp

theorem Session.Sound.after (sound : session.Sound constructors)
    (plugin : Plugin sigma pi) (step : SessionStep delta) :
    (step.after plugin constructors session).Sound constructors :=
  sound.of_move (sound.move plugin step)

theorem Session.Sound.afterSteps (sound : session.Sound constructors)
    (plugin : Plugin sigma pi) (steps : List (SessionStep delta)) :
    (runSteps plugin constructors steps session).Sound constructors := by
  induction steps generalizing session with
  | nil =>
      exact sound
  | cons step rest inductionHypothesis =>
      exact inductionHypothesis (sound.after plugin step)

theorem runSteps_concat (plugin : Plugin sigma pi)
    (constructors : Registry (delta → sigma)) (steps : List (SessionStep delta))
    (step : SessionStep delta) (session : Session sigma) :
    runSteps plugin constructors (steps ++ [step]) session =
      step.after plugin constructors (runSteps plugin constructors steps session) :=
  List.foldl_append

end AssetExchange
