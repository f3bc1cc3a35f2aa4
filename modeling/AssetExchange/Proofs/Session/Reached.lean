import AssetExchange.Proofs.Manager.Preparation
import AssetExchange.Proofs.Session.Moves

/-!
# The sessions that a host can hold

A host starts a session, makes calls of it and uses the managers that it has got from
it.  `Session.Reached` are the sessions that come of this.  On each occasion, named by
`omega`, managers are made by another factory, of which nothing is assumed: it may make
a different manager every time, refuse to make one, or know other identifiers than
before.  Managers may also change without being asked, in the ways named by `delta`.

The manager in use of such a session was prepared for what is selected
(`Session.Reached.inUse`).
-/

namespace AssetExchange

variable {sigma pi delta omega : Type} {plugin : Plugin sigma pi}
  {factories : omega → Factory sigma} {change : delta → sigma → sigma}
  {session later : Session sigma} {manager : Manager sigma} {call : SessionCall}

namespace Session

/-- The session while its managers are made by the given factory. -/
def within (session : Session sigma) (factory : Factory sigma) : Session sigma :=
  { session with factory := factory }

/-- A session that was started, and that was used by calls and through the managers it
has made.  The manager in use is shared with the session and so cannot be prepared by
anyone else. -/
inductive Reached (plugin : Plugin sigma pi) (factories : omega → Factory sigma)
    (change : delta → sigma → sigma) : Session sigma → Prop
  | start (host : Host) (occasion : omega) :
      Reached plugin factories change (.start host (factories occasion))
  | called {session : Session sigma} (reached : Reached plugin factories change session)
      (occasion : omega) (call : SessionCall) :
      Reached plugin factories change
        (call.request plugin (session.within (factories occasion))).state
  | touched {session : Session sigma} (reached : Reached plugin factories change session)
      {place : Nat} {manager : Manager sigma}
      (held : session.managers[place]? = some manager) (event : ManagerEvent pi delta)
      (shared : session.current = some place → event.prepares = false) :
      Reached plugin factories change
        { session with
          managers := session.managers.set place (event.after plugin change manager) }

/-- A manager that was made for what is selected and prepared for it with success, and
that was not prepared again since. -/
def Prepared (plugin : Plugin sigma pi) (factories : omega → Factory sigma)
    (change : delta → sigma → sigma) (session : Session sigma)
    (manager : Manager sigma) : Prop :=
  ∃ identifier occasion start events,
    session.selection.identifier = some identifier ∧
      (factories occasion).instantiate identifier = .ok start ∧
      (session.prepareNew plugin start).answer = .ok () ∧
      (∀ event ∈ events, ManagerEvent.prepares event = false) ∧
      manager = runEvents plugin change events (session.prepareNew plugin start).state

/-! ## Prepared managers -/

theorem Prepared.congr (prepared : session.Prepared plugin factories change manager)
    (sameHost : later.host = session.host)
    (sameSelection : later.selection = session.selection) :
    later.Prepared plugin factories change manager := by
  obtain ⟨identifier, occasion, start, events, named, made, succeeded, quiet, same⟩ :=
    prepared
  have samePreparation : later.prepareNew plugin start = session.prepareNew plugin start := by
    rw [prepareNew, prepareNew, sameHost, sameSelection]
  refine ⟨identifier, occasion, start, events, ?_, made, ?_, quiet, ?_⟩
  · rw [sameSelection, named]
  · rw [samePreparation, succeeded]
  · rw [samePreparation, same]

theorem prepared_new {identifier : String} {occasion : omega} {start : sigma}
    (named : session.selection.identifier = some identifier)
    (made : (factories occasion).instantiate identifier = .ok start)
    (succeeded : (session.prepareNew plugin start).answer = .ok ()) :
    session.Prepared plugin factories change (session.prepareNew plugin start).state := by
  have quiet : ∀ event ∈ ([] : List (ManagerEvent pi delta)), event.prepares = false :=
    fun _ member => nomatch member
  exact ⟨identifier, occasion, start, [], named, made, succeeded, quiet, rfl⟩

theorem Prepared.after (prepared : session.Prepared plugin factories change manager)
    {event : ManagerEvent pi delta} (other : event.prepares = false) :
    session.Prepared plugin factories change (event.after plugin change manager) := by
  obtain ⟨identifier, occasion, start, events, named, made, succeeded, quiet, rfl⟩ :=
    prepared
  have quietThen : ∀ earlier ∈ events ++ [event], earlier.prepares = false := by
    intro earlier member
    rcases List.mem_append.1 member with before | last
    · exact quiet earlier before
    · rw [List.mem_singleton.1 last, other]
  have oneMore : runEvents plugin change (events ++ [event]) _ =
      event.after plugin change
        (runEvents plugin change events (session.prepareNew plugin start).state) :=
    runEvents_append plugin change events [event] _
  exact ⟨identifier, occasion, start, events ++ [event], named, made, succeeded, quietThen,
    oneMore.symm⟩

/-- Session calls ask a manager for its settings at most. -/
theorem Prepared.leave (prepared : session.Prepared plugin factories change manager)
    (call : SessionCall) :
    session.Prepared plugin factories change (call.leave plugin manager) := by
  cases call with
  | settings =>
      have other : (ManagerEvent.used .settings : ManagerEvent pi delta).prepares = false :=
        rfl
      exact prepared.after other
  | _ =>
      exact prepared

/-! ## Getting the selected manager -/

/-- Getting the manager changes nothing but the managers and which of them is in use. -/
theorem selection_currentManager (plugin : Plugin sigma pi) (session : Session sigma) :
    (currentManager plugin session).state.selection = session.selection ∧
      (currentManager plugin session).state.host = session.host := by
  have finds := finds plugin session
  generalize currentManager plugin session = reply at finds
  cases finds <;> exact ⟨rfl, rfl⟩

/-- A manager that is found is in use afterwards. -/
theorem current_of_found {place : Nat}
    (found : (currentManager plugin session).answer = .ok (some place)) :
    (currentManager plugin session).state.current = some place := by
  have finds := finds plugin session
  generalize currentManager plugin session = reply at finds found
  cases finds with
  | inUse current =>
      cases found
      exact current
  | prepared idle named made succeeded =>
      cases found
      rfl
  | _ =>
      cases found

end Session

/-! ## Calls -/

namespace SessionCall

/-- A call that asks for no manager selects and lets the manager in use go, or changes
nothing. -/
theorem current_or_state_of_not_asks (other : call.asks = false) (plugin : Plugin sigma pi)
    (session : Session sigma) :
    (call.request plugin session).state.current = none ∨
      (call.request plugin session).state = session := by
  cases selects : call.selection? with
  | none =>
      rw [request_of_neither plugin selects other]
      exact Or.inr rfl
  | some selection =>
      rcases selection with ⟨_ | identifier, settings⟩
      · obtain ⟨_, values, rfl⟩ := eq_setSettings_of_selection selects
        exact Or.inl rfl
      · rw [request_of_selection plugin selects]
        cases registered : session.factory.isRegistered identifier with
        | true =>
            rw [Session.useManager_of_registered registered]
            exact Or.inl rfl
        | false =>
            rw [Session.useManager_of_unregistered registered]
            exact Or.inr rfl

end SessionCall

namespace Session

/-- The manager in use is there and prepared for what is selected. -/
def InUse (plugin : Plugin sigma pi) (factories : omega → Factory sigma)
    (change : delta → sigma → sigma) (session : Session sigma) : Prop :=
  ∀ place, session.current = some place →
    ∃ manager, session.managers[place]? = some manager ∧
      session.Prepared plugin factories change manager

theorem inUse_of_idle (idle : session.current = none) :
    session.InUse plugin factories change := by
  intro place current
  rw [idle] at current
  cases current

/-- A call that gets the manager uses it, or makes the one that is in use from then
on. -/
theorem InUse.request_of_asks {occasion : omega}
    (sound : session.InUse plugin factories change) (asks : call.asks = true) :
    (call.request plugin (session.within (factories occasion))).state.InUse plugin
      factories change := by
  have finds := finds plugin (session.within (factories occasion))
  generalize answered :
    currentManager plugin (session.within (factories occasion)) = reply at finds
  cases finds with
  | unselected idle unnamed =>
      rw [SessionCall.state_request_of_nothing asks (by simp [answered]), answered]
      exact inUse_of_idle idle
  | inUse current =>
      obtain ⟨manager, held, prepared⟩ := sound _ current
      rw [SessionCall.state_request_of_place asks (congrArg Reply.answer answered)
        (by rw [answered]; exact held), answered]
      intro other alsoCurrent
      obtain rfl := Option.some.inj (current.symm.trans alsoCurrent)
      have inside := (List.getElem?_eq_some_iff.1 held).1
      exact ⟨_, List.getElem?_set_self inside, (prepared.leave call).congr rfl rfl⟩
  | unmade idle named refused =>
      rw [SessionCall.state_request_of_nothing asks (by simp [answered]), answered]
      exact inUse_of_idle idle
  | unprepared idle named made failed =>
      rw [SessionCall.state_request_of_nothing asks (by simp [answered]), answered]
      exact inUse_of_idle idle
  | prepared idle named made succeeded =>
      rw [SessionCall.state_request_of_place asks (congrArg Reply.answer answered)
        (by rw [answered]; exact List.getElem?_concat_length), answered]
      intro place current
      obtain rfl := Option.some.inj current
      have prepared : session.Prepared plugin factories change
          (session.prepareNew plugin _).state :=
        prepared_new named made succeeded
      refine ⟨_, List.getElem?_set_self ?_, (prepared.leave call).congr rfl rfl⟩
      simp

theorem InUse.request (sound : session.InUse plugin factories change) (occasion : omega)
    (call : SessionCall) :
    (call.request plugin (session.within (factories occasion))).state.InUse plugin
      factories change := by
  cases asks : call.asks with
  | true =>
      exact sound.request_of_asks asks
  | false =>
      have left := SessionCall.current_or_state_of_not_asks asks plugin
        (session.within (factories occasion))
      rcases left with idle | same
      · exact inUse_of_idle idle
      · rw [same]
        intro place current
        obtain ⟨manager, held, prepared⟩ := sound place current
        exact ⟨manager, held, prepared.congr rfl rfl⟩

theorem InUse.touch (sound : session.InUse plugin factories change) {place : Nat}
    (held : session.managers[place]? = some manager) {event : ManagerEvent pi delta}
    (shared : session.current = some place → event.prepares = false) :
    InUse plugin factories change
      { session with
        managers := session.managers.set place (event.after plugin change manager) } := by
  intro used current
  obtain ⟨there, heldThere, prepared⟩ := sound used current
  by_cases same : place = used
  · subst same
    obtain rfl := Option.some.inj (held.symm.trans heldThere)
    have inside := (List.getElem?_eq_some_iff.1 held).1
    exact ⟨_, List.getElem?_set_self inside,
      (prepared.after (shared current)).congr rfl rfl⟩
  · have untouched : (session.managers.set place (event.after plugin change manager))[used]? =
        some there := by
      rw [List.getElem?_set_ne same, heldThere]
    exact ⟨there, untouched, prepared.congr rfl rfl⟩

/-- The manager in use of a session that a host can hold was prepared for what is
selected. -/
theorem Reached.inUse (reached : session.Reached plugin factories change) :
    session.InUse plugin factories change := by
  induction reached with
  | start host occasion =>
      exact inUse_of_idle rfl
  | called _ occasion call inductionHypothesis =>
      exact inductionHypothesis.request occasion call
  | touched _ held event shared inductionHypothesis =>
      exact inductionHypothesis.touch held shared

end Session
end AssetExchange
