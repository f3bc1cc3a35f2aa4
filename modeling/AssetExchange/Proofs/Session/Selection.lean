import AssetExchange.Catalogue.Plugin
import AssetExchange.Proofs.Session.Moves
import Mathlib.Data.List.Induction

/-!
# The manager of a session over many calls

Every session that was started and used is sound (`Session.Sound.afterSteps`).  Since the
last selection a host has asked for the selected manager a number of times; each time
before the first success a new manager was made and could not be prepared, and that
first success made the manager that is in use (`Session.Sound.tried`, `Session.Sound.kept`).
`SessionLaw` is what can be said of a session after any steps.

Managers are known by their place in the list of all that were made, so a new manager is
one with a new place.
-/

namespace AssetExchange

variable {sigma pi delta : Type} {plugin : Plugin sigma pi}
  {constructors : Registry (delta → sigma)} {step : SessionStep delta}
  {session later : Session sigma}

/-! ## Steps that select nothing -/

/-- What calls did to a manager that was in use all the time. -/
def leaveAll (plugin : Plugin sigma pi) (steps : List (SessionStep delta))
    (manager : Manager sigma) : Manager sigma :=
  steps.foldl (fun held step => step.call.leave plugin held) manager

theorem SessionMove.selection_eq (move : SessionMove plugin constructors step session later)
    (quiet : step.call.selected? constructors = none) :
    later.selection = session.selection ∧ later.host = session.host := by
  cases move with
  | selected selects =>
      rw [quiet] at selects
      cases selects
  | _ =>
      exact ⟨rfl, rfl⟩

theorem SessionCall.leave_of_not_asks {call : SessionCall} (other : call.asks = false)
    (plugin : Plugin sigma pi) (manager : Manager sigma) :
    call.leave plugin manager = manager := by
  cases call with
  | settings =>
      cases other
  | _ =>
      rfl

/-- While a manager is in use, steps that select nothing use it and no other one. -/
theorem SessionMove.kept (move : SessionMove plugin constructors step session later)
    (quiet : step.call.selected? constructors = none) {place : Nat}
    {manager : Manager sigma} (inUse : session.current = some place)
    (held : session.managers[place]? = some manager) :
    later.current = some place ∧
      later.managers = session.managers.set place (step.call.leave plugin manager) := by
  have same : session.managers.set place manager = session.managers := by
    obtain ⟨inside, rfl⟩ := List.getElem?_eq_some_iff.1 held
    exact List.set_getElem_self inside
  cases move with
  | selected selects =>
      rw [quiet] at selects
      cases selects
  | rest selects nothing =>
      have other : step.call.asks = false := by
        refine Bool.eq_false_iff.2 fun asks => ?_
        cases inUse.symm.trans (nothing asks).2
      rw [SessionCall.leave_of_not_asks other, same]
      exact ⟨inUse, rfl⟩
  | used asks alsoInUse alsoHeld =>
      cases inUse.symm.trans alsoInUse
      cases held.symm.trans alsoHeld
      exact ⟨inUse, rfl⟩
  | failed asks idle =>
      cases inUse.symm.trans idle
  | prepared asks idle =>
      cases inUse.symm.trans idle

/-- Over steps that select nothing, the manager in use stays in use and is the only one
that is used; no manager is made. -/
theorem Session.Sound.kept (sound : session.Sound constructors)
    (plugin : Plugin sigma pi) {steps : List (SessionStep delta)}
    (quiet : ∀ step ∈ steps, step.call.selected? constructors = none) {place : Nat}
    {manager : Manager sigma} (inUse : session.current = some place)
    (held : session.managers[place]? = some manager) :
    (runSteps plugin constructors steps session).current = some place ∧
      (runSteps plugin constructors steps session).managers =
        session.managers.set place (leaveAll plugin steps manager) := by
  induction steps generalizing session manager with
  | nil =>
      obtain ⟨inside, rfl⟩ := List.getElem?_eq_some_iff.1 held
      exact ⟨inUse, (List.set_getElem_self inside).symm⟩
  | cons step rest inductionHypothesis =>
      obtain ⟨quietNow, quietLater⟩ := List.forall_mem_cons.1 quiet
      obtain ⟨stillInUse, managers⟩ :=
        (sound.move plugin step).kept quietNow inUse held
      have heldNow : (step.after plugin constructors session).managers[place]? =
          some (step.call.leave plugin manager) := by
        rw [managers, List.getElem?_set_self (sound.held place inUse)]
      obtain ⟨inUseLater, managersLater⟩ :=
        inductionHypothesis (sound.after plugin step) quietLater stillInUse heldNow
      refine ⟨inUseLater, managersLater.trans ?_⟩
      rw [managers, List.set_set]
      rfl

theorem Session.Sound.selection_eq (sound : session.Sound constructors)
    (plugin : Plugin sigma pi) {steps : List (SessionStep delta)}
    (quiet : ∀ step ∈ steps, step.call.selected? constructors = none) :
    (runSteps plugin constructors steps session).selection =
        session.selection ∧
      (runSteps plugin constructors steps session).host = session.host := by
  induction steps generalizing session with
  | nil =>
      exact ⟨rfl, rfl⟩
  | cons step rest inductionHypothesis =>
      obtain ⟨quietNow, quietLater⟩ := List.forall_mem_cons.1 quiet
      obtain ⟨selection, host⟩ := (sound.move plugin step).selection_eq quietNow
      obtain ⟨selectionLater, hostLater⟩ :=
        inductionHypothesis (sound.after plugin step) quietLater
      exact ⟨selectionLater.trans selection, hostLater.trans host⟩

def asking (steps : List (SessionStep delta)) : List (SessionStep delta) :=
  steps.filter (·.call.asks)

theorem asking_cons_of_asks (asks : step.call.asks = true)
    (rest : List (SessionStep delta)) : asking (step :: rest) = step :: asking rest := by
  simp [asking, asks]

theorem asking_cons_of_not_asks (other : step.call.asks = false)
    (rest : List (SessionStep delta)) : asking (step :: rest) = asking rest := by
  simp [asking, other]

/-- How a host gets the selected manager by the steps `asked` that ask for it, while
`former` are the managers that were made before: each step makes a manager and fails to
prepare it, up to a first one that succeeds and whose manager is used from then on. -/
inductive Attempts (plugin : Plugin sigma pi) (attempt : SessionStep delta →
      Reply (Manager sigma) (Outcome Unit))
    (former : List (Manager sigma)) (asked : List (SessionStep delta)) :
    Option Nat → List (Manager sigma) → Prop
  | allFailed (failed : ∀ step ∈ asked, (attempt step).answer ≠ .ok ()) :
      Attempts plugin attempt former asked none
        (former ++ asked.map fun step => (attempt step).state)
  | succeeded {failing rest : List (SessionStep delta)} {step : SessionStep delta}
      (split : asked = failing ++ step :: rest)
      (failed : ∀ step ∈ failing, (attempt step).answer ≠ .ok ())
      (prepared : (attempt step).answer = .ok ()) :
      Attempts plugin attempt former asked (some (former.length + failing.length))
        (former ++ (failing.map fun step => (attempt step).state) ++
          [leaveAll plugin (step :: rest) (attempt step).state])

theorem leaveAll_asking (plugin : Plugin sigma pi) (steps : List (SessionStep delta))
    (manager : Manager sigma) :
    leaveAll plugin (asking steps) manager = leaveAll plugin steps manager := by
  induction steps generalizing manager with
  | nil =>
      rfl
  | cons step rest inductionHypothesis =>
      cases asks : step.call.asks with
      | true =>
          rw [asking_cons_of_asks asks]
          exact inductionHypothesis _
      | false =>
          rw [asking_cons_of_not_asks asks, inductionHypothesis, leaveAll, leaveAll,
            List.foldl_cons, SessionCall.leave_of_not_asks asks]

theorem Attempts.cons_of_failed
    {attempt : SessionStep delta → Reply (Manager sigma) (Outcome Unit)}
    {former managers : List (Manager sigma)} {asked : List (SessionStep delta)}
    {current : Option Nat} (first : (attempt step).answer ≠ .ok ())
    (others : Attempts plugin attempt (former ++ [(attempt step).state]) asked current
      managers) :
    Attempts plugin attempt former (step :: asked) current managers := by
  cases others with
  | allFailed failed =>
      have result : Attempts plugin attempt former (step :: asked) none _ :=
        .allFailed (List.forall_mem_cons.2 ⟨first, failed⟩)
      rw [List.append_assoc]
      exact result
  | succeeded split failed prepared =>
      rename_i failing rest success
      have result : Attempts plugin attempt former (step :: asked) _ _ :=
        .succeeded (congrArg (List.cons step) split)
          (List.forall_mem_cons.2 ⟨first, failed⟩) prepared
      have place : former.length + (step :: failing).length =
          (former ++ [(attempt step).state]).length + failing.length := by
        simp only [List.length_append, List.length_cons, List.length_nil]
        omega
      rw [place] at result
      simpa only [List.map_cons, List.append_assoc, List.cons_append,
        List.nil_append] using result

/-- While no manager is in use, the calls for the selected one attempt to make it. -/
theorem Session.Sound.tried (sound : session.Sound constructors)
    (plugin : Plugin sigma pi) {identifier : String} {maker : delta → sigma}
    (idle : session.current = none)
    (named : session.selection.identifier = some identifier)
    (registered : constructors.makers.get? identifier = some maker)
    {steps : List (SessionStep delta)}
    (quiet : ∀ step ∈ steps, step.call.selected? constructors = none) :
    Attempts plugin (fun step => session.prepareNew plugin (maker step.occasion))
      session.managers (asking steps)
      (runSteps plugin constructors steps session).current
      (runSteps plugin constructors steps session).managers := by
  induction steps generalizing session with
  | nil =>
      have noAttempt : Attempts plugin
          (fun step => session.prepareNew plugin (maker step.occasion))
          session.managers (asking []) none (session.managers ++ []) :=
        .allFailed fun _ member => nomatch member
      rw [List.append_nil, ← idle] at noAttempt
      exact noAttempt
  | cons step rest inductionHypothesis =>
      obtain ⟨quietNow, quietLater⟩ := List.forall_mem_cons.1 quiet
      have soundNow := sound.after plugin step
      have move := sound.move plugin step
      change Attempts plugin _ _ _
        (runSteps plugin constructors rest
          (step.after plugin constructors session)).current
        (runSteps plugin constructors rest
          (step.after plugin constructors session)).managers
      generalize step.after plugin constructors session = now at soundNow move ⊢
      cases move with
      | selected selects =>
          rw [quietNow] at selects
          cases selects
      | rest selects nothing =>
          have other : step.call.asks = false := by
            refine Bool.eq_false_iff.2 fun asks => ?_
            cases named.symm.trans (nothing asks).1
          rw [asking_cons_of_not_asks other]
          exact inductionHypothesis soundNow idle named quietLater
      | used asks inUse =>
          cases idle.symm.trans inUse
      | failed asks _ alsoNamed alsoRegistered failed =>
          cases named.symm.trans alsoNamed
          cases registered.symm.trans alsoRegistered
          rw [asking_cons_of_asks asks]
          refine Attempts.cons_of_failed ?_
            (inductionHypothesis soundNow idle named quietLater)
          rw [failed]
          exact nofun
      | prepared asks _ alsoNamed alsoRegistered prepared =>
          cases named.symm.trans alsoNamed
          cases registered.symm.trans alsoRegistered
          -- The attempts end here: no later step makes a manager.
          obtain ⟨inUse, managers⟩ := soundNow.kept plugin quietLater rfl
            List.getElem?_concat_length
          rw [asking_cons_of_asks asks, inUse, managers,
            List.set_append_right _ _ (Nat.le_refl _), Nat.sub_self]
          have result : Attempts plugin
              (fun step => session.prepareNew plugin (maker step.occasion))
              session.managers (step :: asking rest)
              (some session.managers.length) _ :=
            .succeeded (List.nil_append _).symm (fun _ member => nomatch member) prepared
          rw [List.map_nil, List.append_nil, leaveAll, List.foldl_cons, ← leaveAll,
            leaveAll_asking] at result
          exact result

/-! ## The manager in use -/

theorem Session.prepareNew_congr {first second : Session sigma}
    (sameHost : first.host = second.host)
    (sameSelection : first.selection = second.selection) (plugin : Plugin sigma pi)
    (start : sigma) : first.prepareNew plugin start = second.prepareNew plugin start := by
  rw [prepareNew, prepareNew, sameHost, sameSelection]

/-- A manager in use was made by one step, prepared for the selection in that step and
used since then. -/
theorem Session.Sound.inUse (sound : session.Sound constructors)
    (idle : session.current = none) (plugin : Plugin sigma pi)
    (steps : List (SessionStep delta)) {place : Nat}
    (inUse : (runSteps plugin constructors steps session).current = some place) :
    ∃ before step after identifier maker,
      steps = before ++ step :: after ∧
        place = (runSteps plugin constructors before session).managers.length ∧
        (runSteps plugin constructors steps session).selection.identifier =
          some identifier ∧
        constructors.makers.get? identifier = some maker ∧
        let prepared := (runSteps plugin constructors steps session).prepareNew plugin
          (maker step.occasion)
        prepared.answer = .ok () ∧
          (runSteps plugin constructors steps session).managers[place]? =
            some (leaveAll plugin (step :: after) prepared.state) := by
  -- The last step either uses a manager that was in use before it or makes one, so the
  -- induction takes steps off the end.
  induction steps using List.reverseRecOn generalizing place with
  | nil =>
      cases idle.symm.trans inUse
  | append_singleton earlier last inductionHypothesis =>
      have soundThen := sound.afterSteps plugin earlier
      have move := soundThen.move plugin last
      rw [runSteps_concat] at inUse ⊢
      cases selects : last.call.selected? constructors with
      | some selection =>
          rw [SessionStep.after, SessionCall.request_of_selected plugin selects] at inUse
          cases inUse
      | none =>
          obtain ⟨sameSelection, sameHost⟩ := move.selection_eq selects
          simp only [Session.prepareNew_congr sameHost sameSelection, sameSelection]
          cases formerly : (runSteps plugin constructors earlier session).current with
          | some former =>
              obtain ⟨before, step, after, identifier, maker, rfl, made, named, registered,
                prepared, held⟩ := inductionHypothesis formerly
              obtain ⟨still, managers⟩ := move.kept selects formerly held
              obtain rfl : former = place := Option.some.inj (still.symm.trans inUse)
              refine ⟨before, step, after ++ [last], identifier, maker, by simp, made, named,
                registered, prepared, ?_⟩
              rw [managers, List.getElem?_set_self (soundThen.held former formerly)]
              simp only [leaveAll, List.foldl_cons, List.foldl_append, List.foldl_nil]
          | none =>
              generalize last.after plugin constructors
                (runSteps plugin constructors earlier session) = now at move inUse
              cases move with
              | prepared asks _ named registered prepared =>
                  cases inUse
                  exact ⟨earlier, last, [], _, _, rfl, rfl, named, registered, prepared,
                    List.getElem?_concat_length⟩
              | selected =>
                  cases inUse
              | _ =>
                  cases formerly.symm.trans inUse

/-! ## What a session answers -/

/-- Getting the selected manager fails only as preparing a new one does. -/
theorem Session.Sound.error_currentManager (sound : session.Sound constructors)
    {occasion : delta} {error : ApiError}
    (answer : (Session.currentManager plugin
      (session.on constructors occasion)).answer = .error error) :
    ∃ identifier maker, session.selection.identifier = some identifier ∧
      constructors.makers.get? identifier = some maker ∧
      (session.prepareNew plugin (maker occasion)).answer = .error error := by
  have gets := sound.gets plugin occasion
  generalize Session.currentManager plugin (session.on constructors occasion) = reply
    at gets answer
  cases gets with
  | failed idle named registered failed =>
      cases answer
      exact ⟨_, _, named, registered, failed⟩
  | _ =>
      cases answer

/-- Getting the settings fails only as getting the manager does or as the manager's own
settings do. -/
theorem Session.Sound.error_settings (sound : session.Sound constructors)
    {occasion : delta} {error : ApiError}
    (answer : (Session.settings plugin
      (session.on constructors occasion)).answer = .error error) :
    let found := Session.currentManager plugin (session.on constructors occasion)
    found.answer = .error error ∨
      ∃ place manager, found.answer = .ok (some place) ∧
        found.state.managers[place]? = some manager ∧
        (Manager.settings plugin manager).answer = .error error := by
  intro found
  have fromManager : ∀ place manager, found.answer = .ok (some place) →
      found.state.managers[place]? = some manager →
      (Manager.settings plugin manager).answer = .error error := by
    intro place manager found held
    rw [Session.settings_of_place found held] at answer
    cases own : (Manager.settings plugin manager).answer with
    | error ownError =>
        rw [own] at answer
        cases answer
        rfl
    | ok values =>
        rw [own] at answer
        cases answer
  have gets := sound.gets plugin occasion
  change Gets plugin constructors occasion session found at gets
  generalize answered : found = reply at gets
  cases gets with
  | unselected =>
      rw [Session.settings_of_none (congrArg Reply.answer answered)] at answer
      cases answer
  | inUse inUse held =>
      rw [answered] at fromManager
      exact Or.inr ⟨_, _, rfl, held, fromManager _ _ rfl held⟩
  | failed =>
      rw [Session.settings_of_error (congrArg Reply.answer answered)] at answer
      cases answer
      exact Or.inl rfl
  | prepared =>
      rw [answered] at fromManager
      exact Or.inr ⟨_, _, rfl, List.getElem?_concat_length,
        fromManager _ _ rfl List.getElem?_concat_length⟩

/-- What is said of a session after any steps from `start`. -/
structure SessionLaw (plugin : Plugin sigma pi) (constructors : Registry (delta → sigma))
    (start : Session sigma) (steps : List (SessionStep delta)) (session : Session sigma) :
    Prop where
  /-- What is selected is registered, so that a manager can be made of it. -/
  registered : ∀ identifier, session.selection.identifier = some identifier →
    constructors.isRegistered identifier = true ∧
      ∀ occasion, ∃ state,
        (session.on constructors occasion).factory.instantiate identifier = .ok state
  /-- Getting the manager fails only as preparing a new one does. -/
  currentManager_error : ∀ occasion error,
    (Session.currentManager plugin (session.on constructors occasion)).answer =
        .error error →
      ∃ identifier maker, session.selection.identifier = some identifier ∧
        constructors.makers.get? identifier = some maker ∧
        (session.prepareNew plugin (maker occasion)).answer = .error error
  /-- Getting the settings may also fail as the manager's own settings do. -/
  settings_error : ∀ occasion error,
    (Session.settings plugin (session.on constructors occasion)).answer = .error error →
      let found := Session.currentManager plugin (session.on constructors occasion)
      found.answer = .error error ∨
        ∃ place manager, found.answer = .ok (some place) ∧
          found.state.managers[place]? = some manager ∧
          (Manager.settings plugin manager).answer = .error error
  /-- Without an identifier nothing is selected, and no manager is in use. -/
  unselected : session.selection.identifier = none →
    session.selection = .empty ∧ session.current = none
  /-- The manager in use was made by a single step, by the constructor of the selected
  identifier, and is none of those that were made before.  It was prepared for the
  selection in that step, with success, and has been asked for its settings alone since
  then. -/
  made : ∀ place, session.current = some place →
    ∃ before step after identifier maker,
      steps = before ++ step :: after ∧
        place = (runSteps plugin constructors before start).managers.length ∧
        session.selection.identifier = some identifier ∧
        constructors.makers.get? identifier = some maker ∧
        let prepared := session.prepareNew plugin (maker step.occasion)
        prepared.answer = .ok () ∧
          session.managers[place]? = some (leaveAll plugin (step :: after) prepared.state)
  /-- Calls get the manager in use, and make none. -/
  used : ∀ place, session.current = some place →
    ∃ manager, session.managers[place]? = some manager ∧ ∀ occasion,
      Session.currentManager plugin (session.on constructors occasion) =
          ⟨.ok (some place), session.on constructors occasion, []⟩ ∧
        Session.settings plugin (session.on constructors occasion) =
          ⟨(Manager.settings plugin manager).answer.map fun values =>
              ⟨session.selection.identifier, values⟩,
            { session.on constructors occasion with
              managers :=
                session.managers.set place (Manager.settings plugin manager).state },
            (Manager.settings plugin manager).messages⟩
  /-- Until the next selection what is selected stays. -/
  stays : ∀ since, (∀ step ∈ since, step.call.selected? constructors = none) →
    (runSteps plugin constructors since session).selection = session.selection
  /-- A manager in use stays in use until then, and no other one is used or made. -/
  kept : ∀ place manager, session.current = some place →
    session.managers[place]? = some manager →
      ∀ since, (∀ step ∈ since, step.call.selected? constructors = none) →
        (runSteps plugin constructors since session).current = some place ∧
          (runSteps plugin constructors since session).managers =
            session.managers.set place (leaveAll plugin since manager)
  /-- While none is in use, every call that asks for the selected one makes a new one,
  until one of them was prepared. -/
  tried : session.current = none →
    ∀ identifier maker, session.selection.identifier = some identifier →
      constructors.makers.get? identifier = some maker →
      ∀ since, (∀ step ∈ since, step.call.selected? constructors = none) →
        Attempts plugin (fun step => session.prepareNew plugin (maker step.occasion))
          session.managers (asking since)
          (runSteps plugin constructors since session).current
          (runSteps plugin constructors since session).managers
  /-- A selection that succeeds lets the manager in use go, even if the same is selected
  again, and makes no manager. -/
  selected : ∀ (occasion : delta) (call : SessionCall) (selection : SessionSettings),
    call.selected? constructors = some selection →
      call.request plugin (session.on constructors occasion) =
        ⟨.ok (),
          { session.on constructors occasion with
            selection := selection
            current := none },
          []⟩
  /-- A selection fails exactly if it names a manager that is not registered, and then
  changes nothing. -/
  refused : ∀ (occasion : delta) (call : SessionCall) (selection : SessionSettings),
    call.selection? = some selection →
    call.selected? constructors = none →
      ∃ identifier, selection.identifier = some identifier ∧
        constructors.isRegistered identifier = false ∧
        call.request plugin (session.on constructors occasion) =
          ⟨.error (.configuration ("Unknown manager '" ++ identifier ++ "'")),
            session.on constructors occasion, []⟩

/-- Every session obeys the law at any time, whatever the managers do and however often
selecting, making and preparing them fails. -/
theorem sessionLaw (plugin : Plugin sigma pi) (constructors : Registry (delta → sigma))
    (host : Host) (factory : Factory sigma) (steps : List (SessionStep delta)) :
    SessionLaw plugin constructors (.start host factory) steps
      (runSteps plugin constructors steps (.start host factory)) := by
  have soundStart := Session.sound_start constructors host factory
  have sound := soundStart.afterSteps plugin steps
  constructor
  case registered =>
      intro identifier named
      have registered := sound.registered identifier named
      obtain ⟨maker, found⟩ := Registry.isRegistered_iff.1 registered
      exact ⟨registered, fun occasion => ⟨_, Registry.instantiate_on found occasion⟩⟩
  case currentManager_error =>
      exact fun occasion error => sound.error_currentManager
  case settings_error =>
      exact fun occasion error => sound.error_settings
  case unselected =>
      exact sound.unselected
  case made =>
      exact fun place => soundStart.inUse rfl plugin steps
  case used =>
      intro place inUse
      refine ⟨_, List.getElem?_eq_getElem (sound.held place inUse), fun occasion => ?_⟩
      have found : Session.currentManager plugin
          ((runSteps plugin constructors steps (.start host factory)).on constructors
            occasion) = ⟨.ok (some place), _, []⟩ :=
        Session.currentManager_of_current inUse
      refine ⟨found, ?_⟩
      rw [Session.settings_of_place (congrArg Reply.answer found)
        (by rw [found]; exact List.getElem?_eq_getElem (sound.held place inUse)), found]
      rfl
  case stays =>
      exact fun since quiet => (sound.selection_eq plugin quiet).1
  case kept =>
      exact fun place manager inUse held since quiet => sound.kept plugin quiet inUse held
  case tried =>
      exact fun idle identifier maker named registered since quiet =>
        sound.tried plugin idle named registered quiet
  case selected =>
      exact fun occasion call selection selects =>
        SessionCall.request_of_selected plugin selects _ occasion
  case refused =>
      exact fun occasion call selection asked refused =>
        SessionCall.request_of_refused plugin asked refused _ occasion

/-- A constructor of catalogues that refuse to be prepared on some occasions. -/
def unreliable : Registry (Bool → Catalogue) :=
  Registry.empty.register "stock" fun reachable =>
    { Catalogue.named "stock" with
      prepareFailure := if reachable then none else some (.unhandled "offline") }

/-- Selecting a manager, getting it in vain and getting it, and a selection that
fails. -/
def gettingStock : List (SessionStep Bool) :=
  [⟨true, .useManager "stock" .empty⟩, ⟨false, .currentManager⟩, ⟨true, .settings⟩,
    ⟨true, .useManager "other" .empty⟩]

/-- The second manager that is made is the one in use, as long as the selection stays,
and the same selection made again lets it go. -/
theorem sessionLaw_unreliable :
    let session := runSteps Catalogue.plugin unreliable gettingStock
      (.start ⟨"org.studio", "Studio", .empty⟩ (Factory.ofEntries []))
    session.selection.identifier = some "stock" ∧
      unreliable.isRegistered "stock" = true ∧
      session.current = some 1 ∧ session.managers.length = 2 ∧
      (Session.currentManager Catalogue.plugin (session.on unreliable false)).answer =
        .ok (some 1) ∧
      ((SessionCall.useManager "stock" .empty).request Catalogue.plugin
        (session.on unreliable true)).state.current = none := by
  intro session
  have law := sessionLaw Catalogue.plugin unreliable ⟨"org.studio", "Studio", .empty⟩
    (Factory.ofEntries []) gettingStock
  have inUse : session.current = some 1 := by decide
  obtain ⟨manager, _, answers⟩ := law.used 1 inUse
  have again := law.selected true (.useManager "stock" .empty) ⟨some "stock", .empty⟩ rfl
  exact ⟨rfl, (law.registered "stock" rfl).1, inUse, by decide,
    congrArg Reply.answer (answers false).1,
    congrArg (fun reply => reply.state.current) again⟩

end AssetExchange
