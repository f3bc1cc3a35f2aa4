import AssetExchange.Proofs.Manager.Memory
import AssetExchange.Proofs.Session.Flattening
import AssetExchange.Proofs.Session.Reached

/-!
# Sessions recreated from saved settings

A session gives settings from which it can be recreated: what is selected, with the
settings that the manager in use has now.  Saved as a dictionary and applied to a new
session, they bring back the selection, and the new session's manager gives the same
settings (`RecreationLaw`).

The managers of both sessions come from the same constructors, which may make a different
manager on every occasion.  The settings come back exactly if the manager that is made for
the new session serves them (`Registry.Serves`): it can be prepared with them, and stores
them if there are any.  Constructors that are `Steady` always make such managers, and
`saved_settings_recreate_fickle` is about one that does not.
-/

namespace AssetExchange

theorem SessionSettings.eq_of_same {first second : SessionSettings}
    (sameIdentifier : first.identifier = second.identifier)
    (sameSettings : first.settings = second.settings) : first = second := by
  cases first
  cases second
  cases sameIdentifier
  cases sameSettings
  rfl

variable {sigma pi delta omega : Type} {plugin : Plugin sigma pi}
  {change : delta → sigma → sigma} {memory : sigma → Option InfoDictionary}
  {constructors : Registry (omega → sigma)} {session : Session sigma}
  {saved : SessionSettings}

namespace Registry

/-- The factories that constructors are on the several occasions. -/
def factories (constructors : Registry (omega → sigma)) (occasion : omega) :
    Factory sigma :=
  (constructors.on occasion).toFactory

/-- A constructor makes managers on all occasions that store their settings or on none,
and that can be prepared on all occasions or on none. -/
def Steady (plugin : Plugin sigma pi) (memory : sigma → Option InfoDictionary)
    (constructors : Registry (omega → sigma)) : Prop :=
  ∀ identifier maker, constructors.makers.get? identifier = some maker →
    ∀ first second : omega,
      (memory (maker first)).isSome = (memory (maker second)).isSome ∧
        ∀ host values,
          (Manager.prepare plugin host values (.ofState (maker first))).answer = .ok () →
          (Manager.prepare plugin host values (.ofState (maker second))).answer = .ok ()

/-- The manager that is made on an occasion for what was saved can be prepared with the saved
settings, and stores them unless there are none. -/
def Serves (plugin : Plugin sigma pi) (memory : sigma → Option InfoDictionary)
    (constructors : Registry (omega → sigma)) (saved : SessionSettings) (host : Host)
    (occasion : omega) : Prop :=
  ∀ identifier maker, saved.identifier = some identifier →
    constructors.makers.get? identifier = some maker →
      (Manager.prepare plugin host saved.settings (.ofState (maker occasion))).answer = .ok () ∧
        (memory (maker occasion) = none → saved.settings = .empty)

/-- Constructors that pay no heed to the occasion are steady. -/
theorem steady_of_constant (plugin : Plugin sigma pi) (memory : sigma → Option InfoDictionary)
    (constant : ∀ identifier maker, constructors.makers.get? identifier = some maker →
      ∀ first second, maker first = maker second) :
    constructors.Steady plugin memory := by
  intro identifier maker registered first second
  rw [constant identifier maker registered first second]
  exact ⟨rfl, fun _ _ done => done⟩

theorem serves_of_unnamed (unnamed : saved.identifier = none) (host : Host)
    (occasion : omega) : constructors.Serves plugin memory saved host occasion := by
  intro identifier maker named
  rw [unnamed] at named
  cases named

theorem serves_iff {identifier : String} {maker : omega → sigma}
    (named : saved.identifier = some identifier)
    (registered : constructors.makers.get? identifier = some maker) (host : Host)
    (occasion : omega) :
    constructors.Serves plugin memory saved host occasion ↔
      (Manager.prepare plugin host saved.settings (.ofState (maker occasion))).answer = .ok () ∧
        (memory (maker occasion) = none → saved.settings = .empty) := by
  constructor
  · intro serves
    exact serves identifier maker named registered
  · intro served other otherMaker otherNamed otherRegistered
    obtain rfl := Option.some.inj (named.symm.trans otherNamed)
    obtain rfl := Option.some.inj (registered.symm.trans otherRegistered)
    exact served

theorem exists_maker {occasion : omega} {identifier : String} {start : sigma}
    (made : (constructors.factories occasion).instantiate identifier = .ok start) :
    ∃ maker, constructors.makers.get? identifier = some maker ∧ start = maker occasion := by
  change (constructors.on occasion).instantiate identifier = .ok start at made
  cases found : constructors.makers.get? identifier with
  | none =>
      simp only [instantiate, on, Dictionary.get?_map, found, Option.map_none] at made
      cases made
  | some maker =>
      rw [instantiate_on found] at made
      exact ⟨maker, rfl, (Except.ok.inj made).symm⟩

end Registry

namespace Session

/-! ## Giving the same settings again -/

/-- The session after asking for its settings on each of the occasions. -/
def askedAgain (plugin : Plugin sigma pi) (factories : omega → Factory sigma)
    (occasions : List omega) (session : Session sigma) : Session sigma :=
  occasions.foldl
    (fun held occasion => (settings plugin (held.within (factories occasion))).state) session

/-- The session gives these settings however often it is asked for them. -/
def KeepsGiving (plugin : Plugin sigma pi) (factories : omega → Factory sigma)
    (session : Session sigma) (saved : SessionSettings) : Prop :=
  ∀ occasions occasion,
    (settings plugin
      ((session.askedAgain plugin factories occasions).within (factories occasion))).answer =
        .ok saved

/-- Nothing is selected, or the manager in use remembers what was saved. -/
inductive Settled (memory : sigma → Option InfoDictionary) (saved : SessionSettings)
    (session : Session sigma) : Prop
  | unselected (idle : session.current = none)
      (unnamed : session.selection.identifier = none) (nothing : saved = .empty)
  | inUse {place : Nat} {manager : Manager sigma} (current : session.current = some place)
      (held : session.managers[place]? = some manager)
      (same : session.selection.identifier = saved.identifier)
      (remembered : (memory manager.state).getD .empty = saved.settings)

/-- The manager that is found gives what it remembers. -/
theorem settled_of_found {place : Nat} {manager : Manager sigma}
    (mindful : plugin.Mindful change memory)
    (found : (currentManager plugin session).answer = .ok (some place))
    (held : (currentManager plugin session).state.managers[place]? = some manager)
    (same : session.selection.identifier = saved.identifier)
    (remembered : (memory manager.state).getD .empty = saved.settings) :
    (settings plugin session).answer = .ok saved ∧
      (settings plugin session).state.Settled memory saved := by
  have gives : (Manager.settings plugin manager).answer = .ok saved.settings := by
    rw [← remembered]
    exact mindful.gives manager.state
  have keeps : memory (Manager.settings plugin manager).state.state = memory manager.state :=
    mindful.keeps (.used .settings) rfl manager
  have identifier : (currentManager plugin session).state.selection.identifier =
      saved.identifier := by
    rw [(selection_currentManager plugin session).1, same]
  have inside := (List.getElem?_eq_some_iff.1 held).1
  rw [settings_of_place found held, gives, identifier]
  refine ⟨rfl, .inUse (current_of_found found) (List.getElem?_set_self inside) identifier ?_⟩
  rw [keeps, remembered]

theorem settled_of_unselected (plugin : Plugin sigma pi)
    (memory : sigma → Option InfoDictionary) (idle : session.current = none)
    (unnamed : session.selection.identifier = none) :
    (settings plugin session).answer = .ok .empty ∧
      (settings plugin session).state.Settled memory .empty := by
  have found : currentManager plugin session = _ :=
    currentManager_of_unselected idle unnamed
  rw [settings_of_none (congrArg Reply.answer found), found]
  exact ⟨rfl, .unselected idle unnamed rfl⟩

theorem Settled.settings (settled : session.Settled memory saved)
    (mindful : plugin.Mindful change memory) :
    (settings plugin session).answer = .ok saved ∧
      (Session.settings plugin session).state.Settled memory saved := by
  cases settled with
  | unselected idle unnamed nothing =>
      subst nothing
      exact settled_of_unselected plugin memory idle unnamed
  | @inUse place manager current held same remembered =>
      have found : currentManager plugin session = _ := currentManager_of_current current
      have heldThen : (currentManager plugin session).state.managers[place]? =
          some manager := by
        rw [found]
        exact held
      exact settled_of_found mindful (congrArg Reply.answer found) heldThen same remembered

theorem Settled.within (settled : session.Settled memory saved) (factory : Factory sigma) :
    (session.within factory).Settled memory saved := by
  cases settled with
  | unselected idle unnamed nothing =>
      exact .unselected idle unnamed nothing
  | inUse current held same remembered =>
      exact .inUse current held same remembered

theorem Settled.keepsGiving (settled : session.Settled memory saved)
    (mindful : plugin.Mindful change memory) (factories : omega → Factory sigma) :
    session.KeepsGiving plugin factories saved := by
  intro occasions occasion
  have still : (session.askedAgain plugin factories occasions).Settled memory saved := by
    induction occasions generalizing session with
    | nil =>
        exact settled
    | cons first rest inductionHypothesis =>
        have next := ((settled.within (factories first)).settings mindful).2
        exact inductionHypothesis next
  exact ((still.within (factories occasion)).settings mindful).1

/-! ## The session that is saved -/

/-- What a prepared manager remembers is what is selected, if it stores its settings. -/
theorem Prepared.remembers {factories : omega → Factory sigma} {manager : Manager sigma}
    (prepared : session.Prepared plugin factories change manager)
    (mindful : plugin.Mindful change memory) :
    ∃ identifier occasion start, session.selection.identifier = some identifier ∧
      (factories occasion).instantiate identifier = .ok start ∧
      (session.prepareNew plugin start).answer = .ok () ∧
      memory manager.state = (memory start).map fun _ => session.selection.settings := by
  obtain ⟨identifier, occasion, start, events, named, made, done, quiet, rfl⟩ := prepared
  refine ⟨identifier, occasion, start, named, made, done, ?_⟩
  rw [mindful.runEvents quiet]
  exact mindful.takes _ _ _ done

/-- A session that gives settings is settled on them. -/
theorem Reached.settled {factories : omega → Factory sigma} {occasion : omega}
    (reached : session.Reached plugin factories change)
    (mindful : plugin.Mindful change memory)
    (given : (settings plugin (session.within (factories occasion))).answer = .ok saved) :
    (settings plugin (session.within (factories occasion))).state.Settled memory saved := by
  have reachedThen : (currentManager plugin
      (session.within (factories occasion))).state.Reached plugin factories change :=
    reached.called occasion .currentManager
  cases answered : (currentManager plugin (session.within (factories occasion))).answer with
  | error error =>
      rw [settings_of_error answered] at given
      cases given
  | ok found =>
      cases found with
      | none =>
          have finds := finds plugin (session.within (factories occasion))
          generalize currentManager plugin (session.within (factories occasion)) = reply
            at finds answered
          cases finds with
          | unselected idle unnamed =>
              obtain ⟨answer, settled⟩ :=
                settled_of_unselected plugin memory idle unnamed
              rw [answer] at given
              obtain rfl := Except.ok.inj given
              exact settled
          | _ =>
              cases answered
      | some place =>
          obtain ⟨manager, held, _⟩ :=
            reachedThen.inUse place (current_of_found answered)
          obtain ⟨answer, settled⟩ :
              (settings plugin (session.within (factories occasion))).answer =
                  .ok ⟨session.selection.identifier, (memory manager.state).getD .empty⟩ ∧ _ :=
            settled_of_found mindful answered held rfl rfl
          rw [answer] at given
          obtain rfl := Except.ok.inj given
          exact settled

/-! ## The session that is recreated -/

/-- A new session in which something is selected. -/
def chosen (host : Host) (factory : Factory sigma) (saved : SessionSettings) :
    Session sigma :=
  { start host factory with selection := saved }

/-- Applies settings to a new session and asks it for its settings. -/
def recreate (plugin : Plugin sigma pi) (constructors : Registry (omega → sigma))
    (saved : SessionSettings) (host : Host) (first second third : omega) :
    Reply (Session sigma) (Outcome SessionSettings) :=
  (setSettings saved ((start host (constructors.factories first)).within
    (constructors.factories second))).bindOk fun _ selected =>
      settings plugin (selected.within (constructors.factories third))

theorem recreate_of_registered {identifier : String}
    (registered : constructors.isRegistered identifier = true)
    (named : saved.identifier = some identifier) (plugin : Plugin sigma pi) (host : Host)
    (first second third : omega) :
    recreate plugin constructors saved host first second third =
      settings plugin (chosen host (constructors.factories third) saved) := by
  obtain ⟨_, values⟩ := saved
  subst named
  have registeredThen :
      (constructors.factories second).isRegistered identifier = true :=
    (constructors.isRegistered_on second identifier).trans registered
  have selecting : setSettings ⟨some identifier, values⟩
      ((start host (constructors.factories first)).within (constructors.factories second)) =
        ⟨.ok (), chosen host (constructors.factories second) ⟨some identifier, values⟩, []⟩ :=
    useManager_of_registered registeredThen values
  rw [recreate, selecting]
  rfl

/-- A new manager for the selection is made and prepared, and gives the settings that it
was prepared with, if it stores them. -/
theorem settings_chosen {factory : Factory sigma} {identifier : String} {start : sigma}
    (mindful : plugin.Mindful change memory) {host : Host}
    (named : saved.identifier = some identifier)
    (made : factory.instantiate identifier = .ok start)
    (done : (Manager.prepare plugin host saved.settings (.ofState start)).answer = .ok ())
    (nothing : memory start = none → saved.settings = .empty) :
    let giving := settings plugin (chosen host factory saved)
    let prepared := Manager.prepare plugin host saved.settings (.ofState start)
    giving.answer = .ok saved ∧ giving.state.Settled memory saved ∧
      giving.state.selection = saved ∧ giving.state.host = host ∧
      giving.state.current = some 0 ∧
      giving.state.managers = [(Manager.settings plugin prepared.state).state] := by
  intro giving prepared
  have found : currentManager plugin (chosen host factory saved) = _ :=
    currentManager_of_prepared rfl named made done
  have held : (currentManager plugin (chosen host factory saved)).state.managers[0]? =
      some prepared.state := by
    rw [found]
    rfl
  have answered := congrArg Reply.answer found
  have took : memory prepared.state.state = (memory start).map fun _ => saved.settings :=
    mindful.takes host saved.settings start done
  have remembered : (memory prepared.state.state).getD .empty = saved.settings := by
    rw [took]
    cases stores : memory start with
    | none =>
        exact (nothing stores).symm
    | some values =>
        rfl
  obtain ⟨answer, settled⟩ : giving.answer = .ok saved ∧ _ :=
    settled_of_found mindful answered held rfl remembered
  have state : giving = _ := settings_of_place answered held
  refine ⟨answer, settled, ?_⟩
  rw [state, found]
  exact ⟨rfl, rfl, rfl, rfl⟩

/-- A new manager gives the settings only if it was prepared with them and stores them. -/
theorem settings_chosen_iff {factory : Factory sigma} {identifier : String} {start : sigma}
    (mindful : plugin.Mindful change memory) {host : Host}
    (named : saved.identifier = some identifier)
    (made : factory.instantiate identifier = .ok start) :
    (settings plugin (chosen host factory saved)).answer = .ok saved ↔
      (Manager.prepare plugin host saved.settings (.ofState start)).answer = .ok () ∧
        (memory start = none → saved.settings = .empty) := by
  constructor
  · intro given
    cases done : (Manager.prepare plugin host saved.settings (.ofState start)).answer with
    | error error =>
        have refused : currentManager plugin (chosen host factory saved) = _ :=
          currentManager_of_failed rfl named made done
        rw [settings_of_error (congrArg Reply.answer refused)] at given
        cases given
    | ok _ =>
        refine ⟨rfl, fun forgets => ?_⟩
        have found : currentManager plugin (chosen host factory saved) = _ :=
          currentManager_of_prepared rfl named made done
        have held : (currentManager plugin (chosen host factory saved)).state.managers[0]? =
            some (Manager.prepare plugin host saved.settings (.ofState start)).state := by
          rw [found]
          rfl
        have took := mindful.takes host saved.settings start done
        rw [forgets, Option.map_none] at took
        obtain ⟨answer, _⟩ :
            (settings plugin (chosen host factory saved)).answer =
              .ok ⟨saved.identifier, .empty⟩ ∧ _ :=
          settled_of_found mindful (congrArg Reply.answer found) held rfl
            (congrArg (Option.getD · .empty) took)
        rw [answer] at given
        exact (congrArg SessionSettings.settings (Except.ok.inj given)).symm
  · rintro ⟨done, nothing⟩
    exact (settings_chosen mindful named made done nothing).1

theorem recreate_iff_serves {identifier : String} {maker : omega → sigma}
    (mindful : plugin.Mindful change memory) (named : saved.identifier = some identifier)
    (registered : constructors.makers.get? identifier = some maker) (host : Host)
    (first second third : omega) :
    (recreate plugin constructors saved host first second third).answer = .ok saved ↔
      constructors.Serves plugin memory saved host third := by
  have isRegistered := Registry.isRegistered_iff.2 ⟨maker, registered⟩
  have made : (constructors.factories third).instantiate identifier = .ok (maker third) :=
    Registry.instantiate_on registered third
  rw [recreate_of_registered isRegistered named plugin host first second third,
    Registry.serves_iff named registered]
  exact settings_chosen_iff mindful named made

/-- The session that is recreated, if the constructor makes a manager that serves. -/
theorem recreate_of_serves {identifier : String} {maker : omega → sigma}
    (mindful : plugin.Mindful change memory) (named : saved.identifier = some identifier)
    (registered : constructors.makers.get? identifier = some maker)
    (host : Host) (first second third : omega)
    (serves : constructors.Serves plugin memory saved host third) :
    let giving := recreate plugin constructors saved host first second third
    giving.answer = .ok saved ∧ giving.state.Settled memory saved ∧
      giving.state.selection = saved ∧
      ∃ newManager, giving.state.current = some 0 ∧
        giving.state.managers[0]? = some newManager ∧
        (memory newManager.state).isSome = (memory (maker third)).isSome ∧
        giving.state.Prepared plugin constructors.factories change newManager := by
  intro giving
  obtain ⟨done, nothing⟩ := serves identifier maker named registered
  have isRegistered := Registry.isRegistered_iff.2 ⟨maker, registered⟩
  have same : giving = _ :=
    recreate_of_registered isRegistered named plugin host first second third
  have made : (constructors.factories third).instantiate identifier = .ok (maker third) :=
    Registry.instantiate_on registered third
  obtain ⟨answer, settled, selection, sameHost, current, managers⟩ :=
    settings_chosen mindful named made done nothing
  have new : (chosen host (constructors.factories third) saved).Prepared plugin
      constructors.factories change
        (Manager.prepare plugin host saved.settings (.ofState (maker third))).state :=
    prepared_new named made done
  have asked := new.leave .settings
  have took := mindful.takes host saved.settings (maker third) done
  have keeps := mindful.keeps (.used .settings) rfl
    (Manager.prepare plugin host saved.settings (.ofState (maker third))).state
  rw [same]
  refine ⟨answer, settled, selection, _, current, ?_, ?_, asked.congr sameHost selection⟩
  · rw [managers]
    rfl
  · change (memory (Manager.settings plugin _).state.state).isSome = _
    change memory (Manager.settings plugin _).state.state = _ at keeps
    rw [keeps, took, Option.isSome_map]

end Session

/-! ## The law -/

/-- What is said of a session that gave settings. -/
structure RecreationLaw (plugin : Plugin sigma pi) (constructors : Registry (omega → sigma))
    (change : delta → sigma → sigma) (memory : sigma → Option InfoDictionary)
    (session : Session sigma) (saved : SessionSettings) : Prop where
  /-- The settings survive being flattened and split. -/
  flattened : SessionSettings.ofDictionary saved.toDictionary = .ok saved
  selected : session.selection.identifier = saved.identifier
  /-- Asked again, the session gives them again. -/
  again : session.KeepsGiving plugin constructors.factories saved
  /-- A new session to which they are applied gives them just if its manager serves them. -/
  recreated_iff : ∀ (host : Host) (first second third : omega),
    (Session.recreate plugin constructors saved host first second third).answer = .ok saved ↔
      constructors.Serves plugin memory saved host third
  /-- Then it gives them again, too. -/
  recreated : ∀ (host : Host) (first second third : omega),
    constructors.Serves plugin memory saved host third →
      let giving := Session.recreate plugin constructors saved host first second third
      giving.state.selection.identifier = session.selection.identifier ∧
        giving.state.KeepsGiving plugin constructors.factories saved
  /-- A manager that stores its settings was prepared with what is selected, and so is the
  manager of the new session, for which the same is selected. -/
  stored : ∀ (place : Nat) (manager : Manager sigma), session.current = some place →
    session.managers[place]? = some manager → (memory manager.state).isSome = true →
      session.Prepared plugin constructors.factories change manager ∧
        session.selection = saved ∧
        ∀ (host : Host) (first second third : omega),
          constructors.Serves plugin memory saved host third →
            let giving := Session.recreate plugin constructors saved host first second third
            giving.state.selection = saved ∧
              ∃ newPlace newManager, giving.state.current = some newPlace ∧
                giving.state.managers[newPlace]? = some newManager ∧
                (constructors.Steady plugin memory →
                  (memory newManager.state).isSome = true) ∧
                giving.state.Prepared plugin constructors.factories change newManager
  steady : constructors.Steady plugin memory → ∀ (host : Host) (occasion : omega),
    constructors.Serves plugin memory saved host occasion

theorem Session.recreationLaw_of_unselected (mindful : plugin.Mindful change memory)
    (idle : session.current = none) (unnamed : session.selection.identifier = none) :
    RecreationLaw plugin constructors change memory session .empty := by
  have settled : session.Settled memory .empty := .unselected idle unnamed rfl
  have recreated : ∀ (host : Host) (first second third : omega),
      let giving := Session.recreate plugin constructors .empty host first second third
      giving.answer = .ok .empty ∧ giving.state.Settled memory .empty :=
    fun _ _ _ _ => Session.settled_of_unselected plugin memory rfl rfl
  have serves : ∀ (host : Host) (occasion : omega),
      constructors.Serves plugin memory .empty host occasion :=
    Registry.serves_of_unnamed rfl
  constructor
  case flattened =>
    exact SessionSettings.ofDictionary_toDictionary rfl
  case selected =>
    exact unnamed
  case again =>
    exact settled.keepsGiving mindful constructors.factories
  case recreated_iff =>
    intro host first second third
    exact iff_of_true (recreated host first second third).1 (serves host third)
  case recreated =>
    intro host first second third _
    exact ⟨unnamed.symm, (recreated host first second third).2.keepsGiving mindful _⟩
  case stored =>
    intro place manager current
    rw [idle] at current
    cases current
  case steady =>
    exact fun _ => serves

/-- The constructor of a manager that remembers the settings makes, on any other occasion,
a manager that can be prepared with them, and that stores settings just if the first one
does. -/
theorem Session.prepared_of_steady {identifier : String} {maker : omega → sigma}
    {manager : Manager sigma} (mindful : plugin.Mindful change memory)
    (steady : constructors.Steady plugin memory)
    (registered : constructors.makers.get? identifier = some maker) {occasion : omega}
    (done : (Manager.prepare plugin session.host session.selection.settings
      (.ofState (maker occasion))).answer = .ok ())
    (took : memory manager.state =
      (memory (maker occasion)).map fun _ => session.selection.settings)
    (remembered : (memory manager.state).getD .empty = saved.settings)
    (host : Host) (third : omega) :
    (Manager.prepare plugin host saved.settings (.ofState (maker third))).answer = .ok () ∧
      (memory (maker third) = none → saved.settings = .empty) := by
  obtain ⟨sameKind, samePreparation⟩ := steady identifier maker registered occasion third
  refine ⟨mindful.alike _ _ host saved.settings _ (samePreparation _ _ done), ?_⟩
  intro forgets
  rw [forgets, Option.isSome_none, Option.isSome_eq_false_iff,
    Option.isNone_iff_eq_none] at sameKind
  rw [← remembered, took, sameKind]
  rfl

/-- Sessions over constructors of mindful managers can be recreated. -/
theorem Session.Settled.recreationLaw (mindful : plugin.Mindful change memory)
    (inUse : session.InUse plugin constructors.factories change)
    (settled : session.Settled memory saved)
    (unkeyed : saved.settings.get? SessionSettings.identifierKey = none) :
    RecreationLaw plugin constructors change memory session saved := by
  have flattened := SessionSettings.ofDictionary_toDictionary unkeyed
  have again := settled.keepsGiving mindful constructors.factories
  cases settled with
  | unselected idle unnamed nothing =>
      subst nothing
      exact Session.recreationLaw_of_unselected mindful idle unnamed
  | @inUse place manager current held same remembered =>
      obtain ⟨found, heldFound, prepared⟩ := inUse place current
      obtain rfl := Option.some.inj (held.symm.trans heldFound)
      obtain ⟨identifier, occasion, start, named, made, done, took⟩ :=
        prepared.remembers mindful
      obtain ⟨maker, registered, rfl⟩ := Registry.exists_maker made
      have savedNamed : saved.identifier = some identifier := same.symm.trans named
      have recreated := Session.recreate_of_serves mindful savedNamed registered
      refine ⟨flattened, same, again, ?_, ?_, ?_, ?_⟩
      · exact Session.recreate_iff_serves mindful savedNamed registered
      · intro host first second third serves giving
        obtain ⟨_, settledThen, selection, _⟩ := recreated host first second third serves
        refine ⟨?_, settledThen.keepsGiving mindful _⟩
        rw [selection, same]
      · intro other manager alsoCurrent alsoHeld stores
        obtain rfl := Option.some.inj (current.symm.trans alsoCurrent)
        obtain rfl := Option.some.inj (held.symm.trans alsoHeld)
        have storesAll : (memory (maker occasion)).isSome = true := by
          rw [took, Option.isSome_map] at stores
          exact stores
        have sameSelection : session.selection = saved := by
          obtain ⟨values, found⟩ := Option.isSome_iff_exists.1 storesAll
          have sameSettings : session.selection.settings = saved.settings := by
            rw [← remembered, took, found]
            rfl
          exact SessionSettings.eq_of_same same sameSettings
        refine ⟨prepared, sameSelection, ?_⟩
        intro host first second third serves giving
        obtain ⟨_, _, selection, newManager, newCurrent, newHeld, newStores, newPrepared⟩ :=
          recreated host first second third serves
        refine ⟨selection, 0, newManager, newCurrent, newHeld, ?_, newPrepared⟩
        intro steady
        have sameKind := (steady identifier maker registered occasion third).1
        rw [newStores, ← sameKind, storesAll]
      · intro steady host third
        exact (Registry.serves_iff savedNamed registered host third).2
          (Session.prepared_of_steady mindful steady registered done took remembered host third)

/-- Saved settings recreate a session over catalogues and managers that keep no settings,
just if the manager that is made for the new session serves them. -/
theorem saved_settings_recreate {tau kappa : Type} {other : Plugin tau kappa}
    (forgetful : other.Forgetful) (constructors : Registry (omega → Catalogue ⊕ tau))
    (session : Session (Catalogue ⊕ tau))
    (reached : session.Reached (Catalogue.plugin.sum other) constructors.factories drift)
    (occasion : omega) (saved : SessionSettings)
    (given : (Session.settings (Catalogue.plugin.sum other)
      (session.within (constructors.factories occasion))).answer = .ok saved)
    (unkeyed : saved.settings.get? "manager" = none) :
    RecreationLaw (Catalogue.plugin.sum other) constructors drift storedSettings
      (Session.settings (Catalogue.plugin.sum other)
        (session.within (constructors.factories occasion))).state saved := by
  have mindful := mindful_sum forgetful
  have settled := reached.settled mindful given
  have reachedThen := reached.called occasion .settings
  exact settled.recreationLaw mindful reachedThen.inUse unkeyed

def stockOnly : Registry (Unit → AnyManager) :=
  Registry.empty.register "stock" fun _ => .inl (Catalogue.named "stock")

def stockInColour : SessionSettings :=
  ⟨some "stock", Dictionary.empty.insert "colour" (.text "red")⟩

/-- A session in which the catalogue is selected and was not asked for yet. -/
def stockChosen (constructors : Registry (omega → AnyManager)) (occasion : omega) :
    Session AnyManager :=
  ((SessionCall.setSettings stockInColour).request AnyManager.plugin
    (.within (.start ⟨"org.studio", "Studio", .empty⟩ (constructors.factories occasion))
      (constructors.factories occasion))).state

theorem reached_stockChosen (constructors : Registry (omega → AnyManager)) (occasion : omega) :
    (stockChosen constructors occasion).Reached AnyManager.plugin constructors.factories
      drift :=
  .called (.start _ occasion) occasion (.setSettings stockInColour)

theorem steady_stockOnly : stockOnly.Steady AnyManager.plugin storedSettings :=
  Registry.steady_of_constant AnyManager.plugin storedSettings fun _ _ _ _ _ => rfl

/-- The settings come back in a new session of another host, whose manager is prepared with
them. -/
theorem saved_settings_recreate_stock :
    let session := stockChosen stockOnly ()
    Script.plugin.Forgetful ∧
      session.Reached AnyManager.plugin stockOnly.factories drift ∧
      (Session.settings AnyManager.plugin (session.within (stockOnly.factories ()))).answer =
        .ok stockInColour ∧
      stockInColour.settings.get? "manager" = none ∧
      let giving := Session.recreate AnyManager.plugin stockOnly stockInColour
        ⟨"org.stage", "Stage", .empty⟩ () () ()
      giving.answer = .ok stockInColour ∧ giving.state.selection = stockInColour ∧
        ∃ (place : Nat) (manager : Manager AnyManager),
          giving.state.managers[place]? = some manager ∧
          (storedSettings manager.state).isSome = true ∧
          giving.state.Prepared AnyManager.plugin stockOnly.factories drift manager := by
  intro session
  have reached := reached_stockChosen stockOnly ()
  have given : (Session.settings AnyManager.plugin
      (session.within (stockOnly.factories ()))).answer = .ok stockInColour := rfl
  have law := saved_settings_recreate forgetful_script stockOnly session reached ()
    stockInColour given rfl
  have serves := law.steady steady_stockOnly ⟨"org.stage", "Stage", .empty⟩ ()
  have recreated := (law.recreated_iff ⟨"org.stage", "Stage", .empty⟩ () () ()).2 serves
  obtain ⟨_, _, stored⟩ := law.stored 0 _ rfl rfl rfl
  obtain ⟨selection, place, manager, _, held, stores, prepared⟩ :=
    stored ⟨"org.stage", "Stage", .empty⟩ () () () serves
  exact ⟨forgetful_script, reached, given, rfl, recreated, selection, place, manager, held,
    stores steady_stockOnly, prepared⟩

/-- A constructor of catalogues, some of which lack a capability that every manager has to
have. -/
def fickleStock : Registry (Bool → AnyManager) :=
  Registry.empty.register "stock" fun complete =>
    if complete then .inl (Catalogue.named "stock")
    else .inl ((Catalogue.named "stock").withoutCapability .entityReferenceIdentification)

/-- Although all its catalogues store their settings, a constructor may make one that serves
and then one that does not; then the settings do not come back. -/
theorem saved_settings_recreate_fickle :
    let session := stockChosen fickleStock true
    Script.plugin.Forgetful ∧
      (∀ occasion : Bool, ∃ catalogue : Catalogue,
        (fickleStock.on occasion).instantiate "stock" = .ok (.inl catalogue)) ∧
      session.Reached AnyManager.plugin fickleStock.factories drift ∧
      (Session.settings AnyManager.plugin (session.within (fickleStock.factories true))).answer =
        .ok stockInColour ∧
      stockInColour.settings.get? "manager" = none ∧
      ¬ (Session.recreate AnyManager.plugin fickleStock stockInColour
        ⟨"org.stage", "Stage", .empty⟩ true true false).answer = .ok stockInColour := by
  intro session
  refine ⟨forgetful_script, ?_, reached_stockChosen fickleStock true, rfl, rfl, ?_⟩
  · intro occasion
    cases occasion with
    | true =>
        exact ⟨_, rfl⟩
    | false =>
        exact ⟨_, rfl⟩
  · intro recreated
    cases recreated

end AssetExchange
