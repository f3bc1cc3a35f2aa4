import AssetExchange.Proofs.Catalogue.SetUp
import AssetExchange.Proofs.Manager.PolicyAgreement

/-!
# What a catalogue holds after it was used

The entities of a catalogue are those it was set up with, overwritten by what was
published since.  `BatchCall.published` says which elements of a publishing request
count: those of a request that is passed on and served whose reference is not refused
and that no earlier error stopped, in the order of the reports.  `publishedIn` collects
them over a list of events, and of several entities with one reference the last one
stays (`lastPublished?`).

Questions about entities are answered from what is held then (`AnswersFrom`).
-/

namespace AssetExchange

open Catalogue

variable {alpha tau : Type}

/-! ## The elements that are published -/

/-- The entities that a batch request puts into a catalogue, in the order of the
reports. -/
def BatchCall.published :
    BatchCall CataloguePager alpha → (List (Report alpha) → Flow) → Catalogue →
      List (EntityReference × TraitsData)
  | call@(register references datas _ _), answer, catalogue =>
      if references.length = datas.length ∧ catalogue.callFailure = none then
        ((catalogue.order.arrange (references.zip datas)).zipIdx.filter fun entry =>
          catalogue.elementErrors.get? entry.1.1.text = none ∧
            Unstopped answer (call.reports catalogue) entry.2).map Prod.fst
      else []
  | _, _, _ => []

/-- The entities that a use puts into a catalogue.  Under an error policy errors are
answered as the policy does. -/
def ManagerUse.published :
    ManagerUse CataloguePager → Catalogue → List (EntityReference × TraitsData)
  | batch call answer, catalogue => call.published answer catalogue
  | shape policy (.registerOne reference context access data), catalogue =>
      (BatchCall.register [reference] [data] access context).published policy.answers
        catalogue
  | shape policy (.registerMany references context access datas), catalogue =>
      (BatchCall.register references datas access context).published policy.answers
        catalogue
  | _, _ => []

/-- The entities that an event puts into a catalogue. -/
def ManagerEvent.published :
    ManagerEvent CataloguePager (Option ApiError) → Catalogue →
      List (EntityReference × TraitsData)
  | used use, catalogue => use.published catalogue
  | changed _, _ => []

/-- The entities that are put into a catalogue by events, one after the other. -/
def publishedIn :
    List (ManagerEvent CataloguePager (Option ApiError)) → Manager Catalogue →
      List (EntityReference × TraitsData)
  | [], _ => []
  | event :: rest, manager =>
      event.published manager.state ++
        publishedIn rest (event.after plugin refusing manager)

/-- The data with which a reference was published last. -/
def lastPublished? (pairs : List (EntityReference × TraitsData)) (text : String) :
    Option TraitsData :=
  (pairs.reverse.find? fun pair => pair.1.text == text).map Prod.snd

/-- The entities of a catalogue after some were published, one after the other. -/
def publishAll (entities : Dictionary TraitsData)
    (pairs : List (EntityReference × TraitsData)) : Dictionary TraitsData :=
  pairs.foldl (fun held pair => held.insert pair.1.text pair.2) entities

/-- What was published last is held, and otherwise what was held before. -/
theorem get?_publishAll (entities : Dictionary TraitsData)
    (pairs : List (EntityReference × TraitsData)) (text : String) :
    (publishAll entities pairs).get? text =
      (lastPublished? pairs text).or (entities.get? text) := by
  induction pairs using List.reverseRecOn with
  | nil =>
      rfl
  | append_singleton before pair inductionHypothesis =>
      unfold publishAll lastPublished? at inductionHypothesis ⊢
      rw [List.foldl_append, List.reverse_append, List.reverse_singleton,
        List.singleton_append, List.foldl_cons, List.foldl_nil,
        Dictionary.get?_insert]
      by_cases same : pair.1.text = text
      · simp [same]
      · rw [List.find?_cons_of_neg (by simpa using same), if_neg same,
          inductionHypothesis]

theorem publishAll_append (entities : Dictionary TraitsData)
    (first second : List (EntityReference × TraitsData)) :
    publishAll entities (first ++ second) =
      publishAll (publishAll entities first) second :=
  List.foldl_append

/-! ## One use -/

namespace BatchCall

/-- The reports of a publishing request come from its elements, each with its index, in
the order of the catalogue. -/
theorem reports_register (references : List EntityReference) (datas : List TraitsData)
    (access : PublishingAccess) (context : Context) (catalogue : Catalogue) :
    (register references datas access context).reports catalogue =
      (catalogue.order.arrange (references.zip datas).zipIdx).map
        (reportOf fun pair => catalogue.unlessError pair.1 (.ok pair.1)) := by
  unfold reports outcomes
  rw [List.zipIdx_map, List.map_map, ← CallbackOrder.arrange_map]
  rfl

/-- The reports of elements that are not refused publish these elements. -/
theorem entities_foldl_leave
    (references : List EntityReference) (datas : List TraitsData)
    (access : PublishingAccess) (context : Context) (initial : Catalogue)
    (entries : List ((EntityReference × TraitsData) × Nat))
    (known : ∀ entry ∈ entries, (references.zip datas)[entry.2]? = some entry.1)
    (catalogue : Catalogue) :
    ((entries.map
        (reportOf fun pair => initial.unlessError pair.1 (.ok pair.1))).foldl
          (register references datas access context).leave catalogue).entities =
      publishAll catalogue.entities
        ((entries.map Prod.fst).filter fun pair =>
          initial.elementErrors.get? pair.1.text = none) := by
  induction entries generalizing catalogue with
  | nil =>
      rfl
  | cons entry rest inductionHypothesis =>
      obtain ⟨here, knownLater⟩ := List.forall_mem_cons.1 known
      have later := inductionHypothesis knownLater
      rw [List.map_cons, List.foldl_cons, later, List.map_cons]
      cases refused : initial.elementErrors.get? entry.1.1.text with
      | none =>
          rw [List.filter_cons_of_pos (by simp [refused])]
          simp only [reportOf, unlessError, refused, leave, here]
          rfl
      | some error =>
          rw [List.filter_cons_of_neg (by simp [refused])]
          simp only [reportOf, unlessError, refused, leave]

/-- The reports that a catalogue makes of a publishing request put its published
elements into the catalogue. -/
theorem entities_of_served
    {references : List EntityReference} {datas : List TraitsData}
    {access : PublishingAccess} {context : Context} {catalogue : Catalogue}
    {answer : List (Report EntityReference) → Flow}
    {kept leftOut : List (Report EntityReference)}
    (sameLength : references.length = datas.length)
    (noFailure : catalogue.callFailure = none)
    (split : (register references datas access context).reports catalogue =
      kept ++ leftOut)
    (ends : EndsAtStop answer kept leftOut) (counted : Catalogue) :
    (kept.foldl (register references datas access context).leave counted).entities =
      publishAll counted.entities
        ((register references datas access context).published answer catalogue) := by
  -- What is heard is a beginning of the reports, so what is published comes from the
  -- same beginning of the elements.
  have entriesOf : kept =
      ((catalogue.order.arrange (references.zip datas).zipIdx).take kept.length).map
        (reportOf fun pair => catalogue.unlessError pair.1 (.ok pair.1)) := by
    rw [List.map_take, ← reports_register references datas access context, split,
      List.take_left]
  have elementsOf :
      catalogue.order.arrange (references.zip datas) =
        (catalogue.order.arrange (references.zip datas).zipIdx).map Prod.fst := by
    rw [← CallbackOrder.arrange_map, List.zipIdx_map_fst]
  have picked := ends.filter_unstopped
    (fun pair => decide (catalogue.elementErrors.get? pair.1.text = none))
    (catalogue.order.arrange (references.zip datas))
    (by rw [← split, reports_register, elementsOf, List.length_map, List.length_map])
  simp only [decide_eq_true_eq] at picked
  rw [published, if_pos ⟨sameLength, noFailure⟩, split, picked, elementsOf,
    ← List.map_take]
  conv_lhs => rw [entriesOf]
  refine entities_foldl_leave references datas access context catalogue _ ?_ counted
  intro entry member
  have inZip := (CallbackOrder.mem_arrange_iff _).1 (List.mem_of_mem_take member)
  exact List.mem_zipIdx_iff_getElem?.1 inZip

/-- A batch request leaves in a catalogue what it publishes. -/
theorem entities_ask (call : BatchCall CataloguePager alpha)
    (answer : List (Report alpha) → Flow) (manager : Manager Catalogue) :
    ((call.ask plugin manager).transcript answer []).2.state.state.entities =
      publishAll manager.state.entities (call.published answer manager.state) := by
  cases checked : call.check with
  | some fault =>
      rw [transcript_ask_of_check checked]
      cases call with
      | register references datas access context =>
          have different : references.length ≠ datas.length := by
            intro same
            simp [check, Manager.checkLengths, same] at checked
          rw [published, if_neg fun holds => different holds.1]
          rfl
      | _ =>
          rfl
  | none =>
      rw [transcript_ask checked]
      cases failure : manager.state.callFailure with
      | some error =>
          rw [call.make_of_callFailure failure]
          cases call with
          | register references datas access context =>
              rw [published, if_neg (by simp [failure])]
              rfl
          | _ =>
              rfl
      | none =>
          obtain ⟨kept, leftOut, split, ends, heard⟩ :=
            call.transcript_make answer manager.state failure
          rw [heard]
          cases call with
          | register references datas access context =>
              have sameLength : references.length = datas.length := by
                by_contra different
                simp [check, Manager.checkLengths, different] at checked
              exact entities_of_served sameLength failure split ends _
          | _ =>
              -- Reports of the other requests leave the catalogue as it is.
              change (kept.foldl (fun (held : Catalogue) _ => held) _).entities = _
              rw [List.foldl_fixed]
              rfl

end BatchCall

theorem entities_after (use : ManagerUse CataloguePager) (manager : Manager Catalogue) :
    (use.after plugin manager).state.entities =
      publishAll manager.state.entities (use.published manager.state) := by
  cases use with
  | batch call answer =>
      exact call.entities_ask answer manager
  | shape policy operation =>
      rw [ManagerUse.after, after_shape]
      cases operation <;> exact BatchCall.entities_ask _ _ manager
  | _ =>
      exact (setUp_and_entities_after rfl manager).2

/-! ## Many events -/

/-- Events leave in a catalogue what they publish, one after the other. -/
theorem entities_runEvents
    (events : List (ManagerEvent CataloguePager (Option ApiError)))
    (manager : Manager Catalogue) :
    (runEvents plugin refusing events manager).state.entities =
      publishAll manager.state.entities (publishedIn events manager) := by
  induction events generalizing manager with
  | nil =>
      rfl
  | cons event rest inductionHypothesis =>
      have first : (event.after plugin refusing manager).state.entities =
          publishAll manager.state.entities (event.published manager.state) := by
        cases event with
        | used use =>
            exact entities_after use manager
        | changed failure =>
            rfl
      rw [publishedIn, publishAll_append, ← first]
      exact inductionHypothesis _

/-- The elements that a publishing request puts into a catalogue. -/
theorem BatchCall.mem_published_iff {references : List EntityReference}
    {datas : List TraitsData} {access : PublishingAccess} {context : Context}
    {answer : List (Report EntityReference) → Flow} {catalogue : Catalogue}
    {pair : EntityReference × TraitsData} :
    pair ∈ (register references datas access context).published answer catalogue ↔
      (references.length = datas.length ∧ catalogue.callFailure = none) ∧
        ∃ place, (catalogue.order.arrange (references.zip datas))[place]? = some pair ∧
          catalogue.elementErrors.get? pair.1.text = none ∧
          Unstopped answer ((register references datas access context).reports catalogue)
            place := by
  rw [published]
  by_cases served : references.length = datas.length ∧ catalogue.callFailure = none
  · rw [if_pos served]
    simp [served, List.mem_zipIdx_iff_getElem?]
  · rw [if_neg served]
    simp only [List.not_mem_nil, served, false_and]

theorem BatchCall.not_refused_of_mem_published (call : BatchCall CataloguePager alpha)
    {answer : List (Report alpha) → Flow} {catalogue : Catalogue}
    {pair : EntityReference × TraitsData}
    (member : pair ∈ call.published answer catalogue) :
    catalogue.elementErrors.get? pair.1.text = none := by
  cases call with
  | register references datas access context =>
      obtain ⟨_, place, _, accepted, _⟩ := mem_published_iff.1 member
      exact accepted
  | _ =>
      cases member

theorem ManagerUse.not_refused_of_mem_published {use : ManagerUse CataloguePager}
    {catalogue : Catalogue} {pair : EntityReference × TraitsData}
    (member : pair ∈ use.published catalogue) :
    catalogue.elementErrors.get? pair.1.text = none := by
  unfold published at member
  split at member
  · exact BatchCall.not_refused_of_mem_published _ member
  · exact BatchCall.not_refused_of_mem_published _ member
  · exact BatchCall.not_refused_of_mem_published _ member
  · cases member

theorem elementErrors_eq_of_setUp_eq {first second : Catalogue}
    (same : first.setUp = second.setUp) : first.elementErrors = second.elementErrors :=
  (congrArg elementErrors same :)

/-- A reference that is refused in the beginning is never published. -/
theorem not_refused_of_mem_publishedIn
    (events : List (ManagerEvent CataloguePager (Option ApiError)))
    (manager : Manager Catalogue) {pair : EntityReference × TraitsData}
    (member : pair ∈ publishedIn events manager) :
    manager.state.elementErrors.get? pair.1.text = none := by
  induction events generalizing manager with
  | nil =>
      cases member
  | cons event rest inductionHypothesis =>
      rcases List.mem_append.1 member with first | later
      · cases event with
        | used use =>
            exact ManagerUse.not_refused_of_mem_published first
        | changed failure =>
            cases first
      · -- The errors of a catalogue are part of its set-up, so the first event keeps them.
        have same := setUp_runEvents [event] manager
        rw [← elementErrors_eq_of_setUp_eq same]
        exact inductionHypothesis _ later

/-! ## Questions about entities -/

/-- A batch reports these outcomes in this order up to the first error that is answered
by `stop`, whatever the answers are, and returns. -/
def Tells (order : CallbackOrder) (outcomes : List (ElementOutcome alpha))
    (run : BatchRun alpha (Reply tau (Outcome Unit))) : Prop :=
  ∀ answer, ∃ kept leftOut,
    order.arrange (outcomes.zipIdx.map fun entry =>
        (⟨entry.2, entry.1⟩ : Report alpha)) = kept ++ leftOut ∧
      EndsAtStop answer kept leftOut ∧
      (run.transcript answer []).1 = kept ∧
      (run.transcript answer []).2.answer = .ok ()

theorem BatchCall.tells_ask (call : BatchCall CataloguePager alpha)
    (passed : call.check = none) {manager : Manager Catalogue}
    (noFailure : manager.state.callFailure = none) :
    Tells manager.state.order (call.outcomes manager.state)
      (call.ask plugin manager) := by
  intro answer
  obtain ⟨kept, leftOut, split, ends, heard⟩ :=
    call.transcript_make answer manager.state noFailure
  refine ⟨kept, leftOut, split, ends, ?_⟩
  rw [transcript_ask passed, heard]
  exact ⟨rfl, rfl⟩

/-- Under `variant` a call returns what a catalogue has to say about each element. -/
theorem BatchCall.answer_collect_ask (call : BatchCall CataloguePager alpha)
    (passed : call.check = none) {manager : Manager Catalogue}
    (noFailure : manager.state.callFailure = none)
    {subjects : List EntityReference} (sameSize : subjects.length = call.size)
    (access : Option Access) :
    (Manager.collect .variant subjects access (call.ask plugin) manager).answer =
      .ok (call.outcomes manager.state) := by
  have exhaustive := call.exhaustive_reports manager.state
  rw [← sameSize] at exhaustive
  rw [ask_eq, passed]
  refine (collect_answer_of_receives subjects access
    (call.receives_passBatch noFailure).1).trans ?_
  apply finish_variant_of_outcomes exhaustive.dutiful
    ((call.length_outcomes _).trans sameSize.symm)
  intro index outcome held
  exact (CallbackOrder.mem_arrange_iff _).2
    (List.mem_map.2 ⟨(outcome, index), List.mem_zipIdx_iff_getElem?.2 held, rfl⟩)

/-- What is said of the data held for a reference: an error given to the reference
comes first, and then that nothing is held for it. -/
def Catalogue.tellData (catalogue : Catalogue) (held : String → Option TraitsData)
    (reference : EntityReference) : ElementOutcome TraitsData :=
  catalogue.unlessError reference <|
    match held reference.text with
    | some data => .ok data
    | none => .error (notFound reference)

/-- Questions about entities are answered from what is held, errors that a catalogue
gave to references coming first: report by report to a listener, and as a list under
`variant`. -/
structure AnswersFrom (catalogue : Catalogue) (held : String → Option TraitsData)
    (manager : Manager Catalogue) : Prop where
  entityExists : ∀ references context,
    let outcomes := references.map fun reference =>
      catalogue.unlessError reference (.ok (held reference.text).isSome)
    Tells catalogue.order outcomes
        (Manager.entityExists plugin references context manager) ∧
      (Manager.entityExistsMany plugin .variant references context manager).answer =
        .ok outcomes
  entityTraits : ∀ references access context,
    let outcomes := references.map fun reference =>
      (catalogue.tellData held reference).map TraitsData.traitSet
    Tells catalogue.order outcomes
        (Manager.entityTraits plugin references access context manager) ∧
      (Manager.entityTraitsMany plugin .variant references access context
          manager).answer =
        .ok outcomes
  resolve : ∀ references traits access context,
    let outcomes := references.map fun reference =>
      (catalogue.tellData held reference).map (·.restrict traits)
    Tells catalogue.order outcomes
        (Manager.resolve plugin references traits access context manager) ∧
      (Manager.resolveMany plugin .variant references traits access context
          manager).answer =
        .ok outcomes

theorem answersFrom_entity? {manager : Manager Catalogue}
    (noFailure : manager.state.callFailure = none) :
    AnswersFrom manager.state manager.state.entity? manager where
  entityExists := fun references context =>
    ⟨(BatchCall.entityExists references context).tells_ask rfl noFailure,
      (BatchCall.entityExists references context).answer_collect_ask rfl noFailure rfl _⟩
  entityTraits := fun references access context =>
    ⟨(BatchCall.entityTraits references access context).tells_ask rfl noFailure,
      (BatchCall.entityTraits references access context).answer_collect_ask rfl noFailure
        rfl _⟩
  resolve := fun references traits access context =>
    ⟨(BatchCall.resolve references traits access context).tells_ask rfl noFailure,
      (BatchCall.resolve references traits access context).answer_collect_ask rfl
        noFailure rfl _⟩

theorem AnswersFrom.of_setUp_eq {first second : Catalogue}
    {held : String → Option TraitsData} {manager : Manager Catalogue}
    (answers : AnswersFrom first held manager) (same : first.setUp = second.setUp) :
    AnswersFrom second held manager := by
  have sameOrder : first.order = second.order := (congrArg order same :)
  have sameOutcome : ∀ {beta : Type} (reference : EntityReference)
      (outcome : ElementOutcome beta),
      first.unlessError reference outcome = second.unlessError reference outcome := by
    intro beta reference outcome
    unfold unlessError
    rw [elementErrors_eq_of_setUp_eq same]
  obtain ⟨existence, traits, data⟩ := answers
  simp only [sameOrder, sameOutcome, tellData] at existence traits data
  exact ⟨existence, traits, data⟩

/-- A catalogue holds for each reference the data with which it was published last, or
what it was set up with, after any events and whatever the answers to errors.

What counts as published are the elements of a request with lists of equal length, to a
catalogue without a failure for whole calls, whose reference has no error and that no
earlier error stopped, in the order of the reports: of one reference that a request
repeats the last element counts, which is the first one for a catalogue that reports
backwards.  A reference with an error keeps what it was set up with.  Questions about
existence, traits and data are answered from what is held, unless every call fails as a
whole.

A catalogue that reports all elements at once is left out, as it promises no order of
them. -/
theorem entity?_eq_lastPublished? (manager : Manager Catalogue) :
    manager.state.order ≠ .threaded →
      ∀ events : List (ManagerEvent CataloguePager (Option ApiError)),
        let later := runEvents plugin refusing events manager
        let held := fun text =>
          (lastPublished? (publishedIn events manager) text).or
            (manager.state.entity? text)
        (∀ text, later.state.entity? text = held text) ∧
          (∀ text error, manager.state.elementErrors.get? text = some error →
            later.state.entity? text = manager.state.entity? text) ∧
          (manager.state.callFailure = none →
            AnswersFrom manager.state held later) := by
  intro _ events later held
  have sameSetUp : later.state.setUp = manager.state.setUp :=
    setUp_runEvents events manager
  have holds : ∀ text, later.state.entity? text = held text := by
    intro text
    unfold entity?
    rw [entities_runEvents events manager, get?_publishAll]
    rfl
  refine ⟨holds, fun text error refused => ?_, fun noFailure => ?_⟩
  · have unpublished : lastPublished? (publishedIn events manager) text = none := by
      rw [lastPublished?, Option.map_eq_none_iff, List.find?_eq_none]
      intro pair member same
      have accepted :=
        not_refused_of_mem_publishedIn events manager (List.mem_reverse.1 member)
      rw [eq_of_beq same, refused] at accepted
      cases accepted
    refine (holds text).trans ?_
    simp only [held, unpublished, Option.none_or]
  · have sameFailure : later.state.callFailure = manager.state.callFailure :=
      (congrArg callFailure sameSetUp :)
    have answers := answersFrom_entity? (sameFailure.trans noFailure)
    rw [funext holds] at answers
    exact answers.of_setUp_eq sameSetUp

def bundle (trait : String) : TraitsData := TraitsData.empty.addTrait trait

def creatingRelated : PublishingAccess :=
  ⟨.createRelated, List.mem_cons_of_mem _ List.mem_cons_self⟩

/-- Publishing one reference twice and a refused one in between, whatever errors there
are; then publishing three references under `exception`, the one in the middle being
refused. -/
def publishTwice : List (ManagerEvent CataloguePager (Option ApiError)) :=
  [.used (.batch
      (.register [⟨"a"⟩, ⟨"b"⟩, ⟨"a"⟩] [bundle "first", bundle "second", bundle "third"]
        creatingRelated .empty)
      fun _ => .proceed),
    .used (.shape .exception
      (.registerMany [⟨"c"⟩, ⟨"b"⟩, ⟨"d"⟩] .empty creatingRelated
        [bundle "fourth", bundle "fifth", bundle "sixth"]))]

/-- A catalogue that reports backwards keeps the first of two elements with one
reference, and publishes what comes before the refused element from the end. -/
theorem entity?_eq_lastPublished?_backwards :
    backwards.order ≠ .threaded ∧
      let later := runEvents plugin refusing publishTwice (.ofState backwards)
      later.state.entity? "a" = some (bundle "first") ∧
        later.state.entity? "b" = none ∧
        later.state.entity? "c" = none ∧
        later.state.entity? "d" = some (bundle "sixth") := by
  have ordered : backwards.order ≠ .threaded := by decide
  obtain ⟨holds, refused, _⟩ :=
    entity?_eq_lastPublished? (.ofState backwards) ordered publishTwice
  refine ⟨ordered, (holds "a").trans ?_, refused "b" _ rfl, (holds "c").trans ?_,
    (holds "d").trans ?_⟩
  · decide
  · decide
  · decide

end AssetExchange
