import AssetExchange.Proofs.Manager.Uses

/-!
# Preparing a manager, and the scheme that is known

A host knows what the references of a manager begin with from the last time the
manager was prepared.  `PreparationLaw` says what comes of preparing a manager: which
error, which messages of the host's side, and which scheme.  Nothing but preparing
changes the scheme (`ManagerUse.scheme_after`), so over any events the scheme is the one
that the latest preparation learned (`prepare_and_known_scheme`).

Nothing is assumed about managers: what their preparation answers, what they support
and what they say of themselves may change with every request and between requests.
-/

namespace AssetExchange

variable {sigma pi delta : Type}

/-! ## One preparation -/

def ManagerEvent.prepares : ManagerEvent pi delta → Bool
  | used use => use.prepares
  | changed _ => false

/-- What comes of preparing a manager: `own` is what the manager itself answers,
`described` how it then describes itself. -/
structure PreparationLaw (own : Reply sigma (Outcome Unit))
    (described : Reply sigma InfoDictionary) (supports : Capability → Bool)
    (identifier : String) (reply : Reply (Manager sigma) (Outcome Unit)) : Prop where
  /-- The preparation succeeds if the manager's own does and every required capability
  is there afterwards. -/
  ok_iff : reply.answer = .ok () ↔
    own.answer = .ok () ∧
      supports .entityReferenceIdentification = true ∧
      supports .managementPolicyQueries = true ∧
      supports .entityTraitIntrospection = true
  /-- An error of the manager comes back as it is. -/
  refused : ∀ error, own.answer = .error error → reply.answer = .error error
  /-- Capabilities that are missing are named, in the order in which they are
  checked. -/
  incapable : own.answer = .ok () →
    ∀ missing, missing = Capability.required.filter (fun needed => !supports needed) →
      missing ≠ [] →
      reply.answer = .error (.configuration
        ("Manager implementation for '" ++ identifier ++
          "' does not support the required capabilities: " ++
          String.intercalate ", " (missing.map Capability.name)))
  /-- After a failure no scheme is known, and the host says nothing. -/
  failed : ∀ error, reply.answer = .error error →
    reply.state = ⟨own.state, none⟩ ∧ reply.messages = own.messages
  /-- A scheme that is a string is known from now on, and one message says so. -/
  learned : reply.answer = .ok () →
    ∀ scheme, described.answer.get? "entityReferencesMatchPrefix" = some (.text scheme) →
      reply.state = ⟨described.state, some scheme⟩ ∧
        reply.messages = own.messages ++ described.messages ++
          [⟨.debugApi, (Manager.schemeLearned scheme).text⟩]
  /-- A scheme of another kind is not known, and one warning says so. -/
  unusable : reply.answer = .ok () →
    ∀ value, described.answer.get? "entityReferencesMatchPrefix" = some value →
      (∀ scheme, value ≠ .text scheme) →
      reply.state = ⟨described.state, none⟩ ∧
        reply.messages = own.messages ++ described.messages ++
          [⟨.warning, Manager.schemeUnusable.text⟩]
  /-- Without a scheme the host says nothing. -/
  unpublished : reply.answer = .ok () →
    described.answer.get? "entityReferencesMatchPrefix" = none →
      reply.state = ⟨described.state, none⟩ ∧
        reply.messages = own.messages ++ described.messages

theorem Plugin.missingCapabilities_eq_nil_iff (plugin : Plugin sigma pi)
    (state : sigma) :
    plugin.missingCapabilities state = [] ↔
      plugin.hasCapability state .entityReferenceIdentification = true ∧
        plugin.hasCapability state .managementPolicyQueries = true ∧
        plugin.hasCapability state .entityTraitIntrospection = true := by
  simp [missingCapabilities, Capability.required]

theorem Manager.prepare_of_refused {plugin : Plugin sigma pi} {host : Host}
    {settings : InfoDictionary} {manager : Manager sigma} {error : ApiError}
    (refused : (plugin.prepare host settings manager.state).answer = .error error) :
    Manager.prepare plugin host settings manager =
      ⟨.error error, ⟨(plugin.prepare host settings manager.state).state, none⟩,
        (plugin.prepare host settings manager.state).messages⟩ := by
  simp only [prepare, refused, ofState]

theorem Manager.prepare_of_incapable {plugin : Plugin sigma pi} {host : Host}
    {settings : InfoDictionary} {manager : Manager sigma}
    (own : (plugin.prepare host settings manager.state).answer = .ok ())
    (missing : plugin.missingCapabilities
      (plugin.prepare host settings manager.state).state ≠ []) :
    Manager.prepare plugin host settings manager =
      ⟨.error (Fault.missingCapabilities
          (plugin.identifier (plugin.prepare host settings manager.state).state)
          (plugin.missingCapabilities
            (plugin.prepare host settings manager.state).state)).toError,
        ⟨(plugin.prepare host settings manager.state).state, none⟩,
        (plugin.prepare host settings manager.state).messages⟩ := by
  simp only [prepare, own, Plugin.verifyCapabilities]
  rfl

theorem Manager.prepare_of_capable {plugin : Plugin sigma pi} {host : Host}
    {settings : InfoDictionary} {manager : Manager sigma}
    (own : (plugin.prepare host settings manager.state).answer = .ok ())
    (missing : plugin.missingCapabilities
      (plugin.prepare host settings manager.state).state = []) :
    Manager.prepare plugin host settings manager =
      ⟨.ok (),
        ⟨(plugin.info (plugin.prepare host settings manager.state).state).state,
          (publishedScheme
            (plugin.info (plugin.prepare host settings manager.state).state).answer).1⟩,
        (plugin.prepare host settings manager.state).messages ++
          (plugin.info (plugin.prepare host settings manager.state).state).messages ++
          (publishedScheme
            (plugin.info (plugin.prepare host settings manager.state).state).answer).2⟩ := by
  simp only [prepare, own, Plugin.verifyCapabilities, missing]

namespace Manager

/-! ## The scheme that details publish -/

variable {details : InfoDictionary}

theorem publishedScheme_of_text {scheme : String}
    (published : details.get? Catalogue.schemeKey = some (.text scheme)) :
    publishedScheme details = (some scheme, [schemeLearned scheme]) := by
  simp only [publishedScheme, published]

theorem publishedScheme_of_not_text {value : PropertyValue}
    (published : details.get? Catalogue.schemeKey = some value)
    (notText : ∀ scheme, value ≠ .text scheme) :
    publishedScheme details = (none, [schemeUnusable]) := by
  cases value with
  | text scheme =>
      exact absurd rfl (notText scheme)
  | _ =>
      simp only [publishedScheme, published]

theorem publishedScheme_of_none (unpublished : details.get? Catalogue.schemeKey = none) :
    publishedScheme details = (none, []) := by
  simp only [publishedScheme, unpublished]

theorem publishedScheme_eq_some_iff (scheme : String) :
    (publishedScheme details).1 = some scheme ↔
      details.get? Catalogue.schemeKey = some (.text scheme) := by
  constructor
  · intro learned
    unfold publishedScheme at learned
    split at learned
    · cases learned
    · rename_i found
      rw [found, Option.some.inj learned]
    · cases learned
  · intro published
    rw [publishedScheme_of_text published]

/-- The law of preparation holds for every manager, host and settings. -/
theorem preparationLaw (plugin : Plugin sigma pi) (host : Host)
    (settings : InfoDictionary) (manager : Manager sigma) :
    PreparationLaw (plugin.prepare host settings manager.state)
      (plugin.info (plugin.prepare host settings manager.state).state)
      (plugin.hasCapability (plugin.prepare host settings manager.state).state)
      (plugin.identifier (plugin.prepare host settings manager.state).state)
      (Manager.prepare plugin host settings manager) := by
  have required := plugin.missingCapabilities_eq_nil_iff
    (plugin.prepare host settings manager.state).state
  cases own : (plugin.prepare host settings manager.state).answer with
  | error error =>
      rw [prepare_of_refused own]
      constructor <;> simp [own]
  | ok done =>
      by_cases missing : plugin.missingCapabilities
          (plugin.prepare host settings manager.state).state = []
      · rw [prepare_of_capable own missing]
        constructor
        case ok_iff =>
            simp [own, ← required, missing]
        case incapable =>
            rintro - lacking rfl something
            exact absurd missing something
        case learned =>
            intro _ scheme published
            rw [publishedScheme_of_text published]
            exact ⟨rfl, rfl⟩
        case unusable =>
            intro _ value published notText
            rw [publishedScheme_of_not_text published notText]
            exact ⟨rfl, rfl⟩
        case unpublished =>
            intro _ unpublished
            rw [publishedScheme_of_none unpublished, List.append_nil]
            exact ⟨rfl, rfl⟩
        all_goals simp [own]
      · rw [prepare_of_incapable own missing]
        constructor
        case ok_iff =>
            simp [own, ← required, missing]
        case incapable =>
            rintro - lacking rfl something
            rfl
        all_goals simp [own]

theorem scheme_prepare_eq_some_iff (plugin : Plugin sigma pi) (host : Host)
    (settings : InfoDictionary) (manager : Manager sigma) (scheme : String) :
    (Manager.prepare plugin host settings manager).state.scheme = some scheme ↔
      (Manager.prepare plugin host settings manager).answer = .ok () ∧
        (plugin.info (plugin.prepare host settings manager.state).state).answer.get?
          Catalogue.schemeKey = some (.text scheme) := by
  cases own : (plugin.prepare host settings manager.state).answer with
  | error error =>
      rw [prepare_of_refused own]
      simp
  | ok done =>
      by_cases missing : plugin.missingCapabilities
          (plugin.prepare host settings manager.state).state = []
      · rw [prepare_of_capable own missing]
        simp only [publishedScheme_eq_some_iff, true_and]
      · rw [prepare_of_incapable own missing]
        simp

end Manager

/-! ## Many events -/

theorem BatchCall.scheme_ask {alpha : Type} (plugin : Plugin sigma pi)
    (call : BatchCall pi alpha) (answer : List (Report alpha) → Flow)
    (manager : Manager sigma) :
    ((call.ask plugin manager).transcript answer []).2.state.scheme =
      manager.scheme := by
  cases checked : call.check with
  | some fault =>
      rw [transcript_ask_of_check checked]
  | none =>
      rw [transcript_ask checked]
      rfl

theorem ManagerUse.scheme_after (plugin : Plugin sigma pi) {use : ManagerUse pi}
    (other : use.prepares = false) (manager : Manager sigma) :
    (use.after plugin manager).scheme = manager.scheme := by
  cases kind : use.isBatch with
  | false =>
      obtain ⟨state, _, touched⟩ := use.touched_after plugin kind other manager
      rw [touched]
  | true =>
      cases use with
      | batch call answer =>
          exact call.scheme_ask plugin answer manager
      | shape policy operation =>
          rw [after, after_shape]
          cases operation <;> exact BatchCall.scheme_ask plugin _ _ manager
      | _ =>
          cases kind

theorem ManagerEvent.scheme_after (plugin : Plugin sigma pi)
    (change : delta → sigma → sigma) {event : ManagerEvent pi delta}
    (other : event.prepares = false) (manager : Manager sigma) :
    (event.after plugin change manager).scheme = manager.scheme := by
  cases event with
  | used use =>
      exact use.scheme_after plugin other manager
  | changed name =>
      rfl

theorem ManagerEvent.eq_prepare_of_prepares {event : ManagerEvent pi delta}
    (prepares : event.prepares = true) :
    ∃ host settings, event = .used (.prepare host settings) := by
  cases event with
  | used use =>
      obtain ⟨host, settings, same⟩ := use.eq_prepare_of_prepares prepares
      exact ⟨host, settings, congrArg used same⟩
  | changed name =>
      cases prepares

/-- Events either do not prepare the manager, or there is a last one that does. -/
theorem quiet_or_lastPreparation (events : List (ManagerEvent pi delta)) :
    (∀ event ∈ events, event.prepares = false) ∨
      ∃ before host settings after,
        events = before ++ .used (.prepare host settings) :: after ∧
          ∀ event ∈ after, event.prepares = false := by
  induction events using List.reverseRecOn with
  | nil =>
      exact Or.inl fun _ member => nomatch member
  | append_singleton earlier event inductionHypothesis =>
      cases prepares : event.prepares with
      | true =>
          obtain ⟨host, settings, rfl⟩ := event.eq_prepare_of_prepares prepares
          exact Or.inr ⟨earlier, host, settings, [], rfl, fun _ member => nomatch member⟩
      | false =>
          -- A last event that prepares nothing is added to the quiet ones.
          have quiet : ∀ {others : List (ManagerEvent pi delta)},
              (∀ other ∈ others, other.prepares = false) →
                ∀ other ∈ others ++ [event], other.prepares = false := by
            intro others quiet other member
            rcases List.mem_append.1 member with before | last
            · exact quiet other before
            · rw [List.mem_singleton.1 last, prepares]
          rcases inductionHypothesis with none | ⟨before, host, settings, after, rfl, rest⟩
          · exact Or.inl (quiet none)
          · exact Or.inr ⟨before, host, settings, after ++ [event], by simp, quiet rest⟩

section Runs

variable (plugin : Plugin sigma pi) (change : delta → sigma → sigma)

theorem scheme_runEvents_of_quiet {events : List (ManagerEvent pi delta)}
    (quiet : ∀ event ∈ events, event.prepares = false) (manager : Manager sigma) :
    (runEvents plugin change events manager).scheme = manager.scheme := by
  induction events generalizing manager with
  | nil =>
      rfl
  | cons event rest inductionHypothesis =>
      obtain ⟨quietNow, quietLater⟩ := List.forall_mem_cons.1 quiet
      calc (runEvents plugin change (event :: rest) manager).scheme
          = (event.after plugin change manager).scheme := inductionHypothesis quietLater _
        _ = manager.scheme := event.scheme_after plugin change quietNow manager

/-- The scheme is the one that the last preparation left. -/
theorem scheme_runEvents_of_lastPreparation
    (before : List (ManagerEvent pi delta)) (host : Host) (settings : InfoDictionary)
    {after : List (ManagerEvent pi delta)}
    (quiet : ∀ event ∈ after, event.prepares = false) (manager : Manager sigma) :
    (runEvents plugin change (before ++ .used (.prepare host settings) :: after)
        manager).scheme =
      (Manager.prepare plugin host settings
        (runEvents plugin change before manager)).state.scheme := by
  rw [runEvents_append]
  exact scheme_runEvents_of_quiet plugin change quiet _

/-- A scheme is known if the latest preparation succeeded and learned it, and was
known to nobody before the first one. -/
theorem scheme_runEvents_eq_some_iff (start : sigma)
    (events : List (ManagerEvent pi delta)) (scheme : String) :
    (runEvents plugin change events (.ofState start)).scheme = some scheme ↔
      ∃ before host settings after,
        events = before ++ .used (.prepare host settings) :: after ∧
          (∀ event ∈ after, event.prepares = false) ∧
          let manager := runEvents plugin change before (.ofState start)
          let own := plugin.prepare host settings manager.state
          (Manager.prepare plugin host settings manager).answer = .ok () ∧
            (plugin.info own.state).answer.get? Catalogue.schemeKey =
              some (.text scheme) := by
  constructor
  · intro known
    rcases quiet_or_lastPreparation events with
      quiet | ⟨before, host, settings, after, rfl, quiet⟩
    · rw [scheme_runEvents_of_quiet plugin change quiet] at known
      cases known
    · rw [scheme_runEvents_of_lastPreparation plugin change before host settings quiet,
        Manager.scheme_prepare_eq_some_iff] at known
      exact ⟨before, host, settings, after, rfl, quiet, known⟩
  · rintro ⟨before, host, settings, after, rfl, quiet, learned⟩
    rw [scheme_runEvents_of_lastPreparation plugin change before host settings quiet,
      Manager.scheme_prepare_eq_some_iff]
    exact learned

end Runs

/-- Preparing a manager, and what is known of its references over all events.

A preparation succeeds exactly if the manager's own does and all three required
capabilities are there after it.  Otherwise the manager's error comes back, or an error
that names what is missing in the order in which it is checked.  The host's side sends
one message about a scheme it learned, one warning about a scheme that is no string,
and nothing else.

A scheme is known at some time exactly if the manager was prepared before, the latest
preparation succeeded and the details that were read then give that scheme as a string.
No other event changes it. -/
theorem prepare_and_known_scheme (plugin : Plugin sigma pi) :
    (∀ (host : Host) (settings : InfoDictionary) (manager : Manager sigma),
      let own := plugin.prepare host settings manager.state
      PreparationLaw own (plugin.info own.state) (plugin.hasCapability own.state)
        (plugin.identifier own.state) (Manager.prepare plugin host settings manager)) ∧
    (∀ (start : sigma) (events : List (ManagerEvent pi (sigma → sigma)))
      (scheme : String),
      (runEvents plugin id events (.ofState start)).scheme = some scheme ↔
        ∃ before host settings after,
          events = before ++ .used (.prepare host settings) :: after ∧
            (∀ event ∈ after, event.prepares = false) ∧
            let manager := runEvents plugin id before (.ofState start)
            let own := plugin.prepare host settings manager.state
            (Manager.prepare plugin host settings manager).answer = .ok () ∧
              (plugin.info own.state).answer.get? "entityReferencesMatchPrefix" =
                some (.text scheme)) ∧
    ∀ (event : ManagerEvent pi (sigma → sigma)) (manager : Manager sigma),
      event.prepares = false →
        (event.after plugin id manager).scheme = manager.scheme := by
  exact ⟨Manager.preparationLaw plugin, scheme_runEvents_eq_some_iff plugin id,
    fun event manager other => event.scheme_after plugin id other manager⟩

def studio : Host := ⟨"org.studio", "Studio", .empty⟩

/-- A catalogue that publishes what its references begin with. -/
def publishing : Catalogue := ((Catalogue.named "stock").withScheme "ref:").withPublishedScheme

/-- Preparing a catalogue, using it, and preparing it again after it was made to
refuse. -/
def preparedTwice : List (ManagerEvent CataloguePager (Catalogue → Catalogue)) :=
  [.used (.prepare studio .empty), .used .flushCaches,
    .changed fun catalogue =>
      { catalogue with prepareFailure := some (.unhandled "offline") },
    .used (.prepare studio .empty)]

/-- The scheme of a catalogue that publishes it is known after it was prepared and used,
one message says so, and a later preparation that fails forgets it. -/
theorem prepare_and_known_scheme_publishing :
    let prepared := Manager.prepare Catalogue.plugin studio .empty (.ofState publishing)
    let refused := Manager.prepare Catalogue.plugin studio .empty
      (runEvents Catalogue.plugin id (preparedTwice.take 3) (.ofState publishing))
    prepared.messages =
        [⟨.debug, "stock initialized for org.studio"⟩, Manager.schemeLearned "ref:"] ∧
      (ManagerEvent.after Catalogue.plugin id (.used .flushCaches) prepared.state).scheme =
        prepared.state.scheme ∧
      (runEvents Catalogue.plugin id (preparedTwice.take 2) (.ofState publishing)).scheme =
        some "ref:" ∧
      refused.answer = .error (.unhandled "offline") ∧ refused.state.scheme = none := by
  intro prepared refused
  obtain ⟨law, known, other⟩ := prepare_and_known_scheme Catalogue.plugin
  refine ⟨?_, other (.used .flushCaches) prepared.state rfl, ?_, ?_, ?_⟩
  · exact ((law studio .empty (.ofState publishing)).learned rfl "ref:" rfl).2
  · refine (known publishing (preparedTwice.take 2) "ref:").2
      ⟨[], studio, .empty, [.used .flushCaches], rfl, ?_, rfl, rfl⟩
    intro event member
    rw [List.mem_singleton.1 member]
    rfl
  · exact (law studio .empty _).refused _ rfl
  · exact congrArg Manager.scheme ((law studio .empty _).failed (.unhandled "offline") rfl).1

end AssetExchange
