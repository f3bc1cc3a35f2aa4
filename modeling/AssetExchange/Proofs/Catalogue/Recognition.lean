import AssetExchange.Proofs.Catalogue.SetUp
import AssetExchange.Proofs.Manager.Preparation

/-!
# Recognizing the references of a catalogue

A host that knows what the references of a manager begin with decides by itself whether
a string is one of them, and asks the manager otherwise.  If a catalogue publishes what
its references begin with, both ways agree, whatever happened to it before
(`recognize_agrees`): a host never knows anything else than what was published
(`scheme_runEvents_of_publishes`).

The two ways are kept apart by how often the catalogue is asked.
-/

namespace AssetExchange

open Catalogue

/-! ## What a catalogue publishes -/

namespace Catalogue

/-- References of the catalogue begin with `scheme`, and it says so. -/
structure Publishes (catalogue : Catalogue) (scheme : String) : Prop where
  begins : catalogue.scheme = scheme
  described : catalogue.info.get? "entityReferencesMatchPrefix" = some (.text scheme)

theorem publishes_withPublishedScheme (catalogue : Catalogue) (scheme : String) :
    (catalogue.withScheme scheme).withPublishedScheme.Publishes scheme :=
  ⟨rfl, Dictionary.get?_insert_self _ _ _⟩

theorem Publishes.withInfo {catalogue : Catalogue} {scheme key : String}
    (publishes : catalogue.Publishes scheme) (other : key ≠ schemeKey)
    (value : PropertyValue) : (catalogue.withInfo key value).Publishes scheme :=
  ⟨publishes.begins,
    (Dictionary.get?_insert_of_ne _ _ other).trans publishes.described⟩

theorem Publishes.of_setUp_eq {first second : Catalogue} {scheme : String}
    (publishes : first.Publishes scheme) (same : second.setUp = first.setUp) :
    second.Publishes scheme := by
  have sameScheme : second.scheme = first.scheme := (congrArg Catalogue.scheme same :)
  have sameInfo : second.info = first.info := (congrArg Catalogue.info same :)
  exact ⟨sameScheme.trans publishes.begins, sameInfo ▸ publishes.described⟩

/-- A request is counted once, under its own name. -/
theorem callCount_recordCall (catalogue : Catalogue) (call : Call) (name : String) :
    (catalogue.recordCall call).callCount name =
      catalogue.callCount name + if call.name = name then 1 else 0 := by
  rw [callCount, recordCall, Dictionary.alter, Dictionary.get?_insert]
  split
  · next same =>
      rw [← same]
      rfl
  · rfl

theorem info_prepare (host : Host) (settings : InfoDictionary) (catalogue : Catalogue) :
    (plugin.info (plugin.prepare host settings catalogue).state).answer =
      catalogue.info := by
  cases refused : (catalogue.recordCall .prepare).prepareFailure <;>
    simp only [plugin, counting, Catalogue.prepare, refused] <;>
    rfl

end Catalogue

/-! ## What a host knows -/

/-- A host knows no other scheme of a catalogue than the one that was published. -/
theorem scheme_runEvents_of_publishes {catalogue : Catalogue} {scheme : String}
    (publishes : catalogue.Publishes scheme)
    (events : List (ManagerEvent CataloguePager (Option ApiError))) :
    (runEvents plugin refusing events (.ofState catalogue)).scheme = none ∨
      (runEvents plugin refusing events (.ofState catalogue)).scheme = some scheme := by
  cases known : (runEvents plugin refusing events (.ofState catalogue)).scheme with
  | none =>
      exact Or.inl rfl
  | some learned =>
      obtain ⟨before, host, settings, after, _, _, _, described⟩ :=
        (scheme_runEvents_eq_some_iff plugin refusing catalogue events learned).1 known
      have earlier := publishes.of_setUp_eq
        (setUp_runEvents before (.ofState catalogue))
      rw [info_prepare] at described
      have same := described.symm.trans earlier.described
      rw [PropertyValue.text.inj (Option.some.inj same)]
      exact Or.inr rfl

/-! ## Both ways -/

/-- A host that recognizes references, and the catalogue itself, agree about a
string. -/
structure RecognitionAgrees (scheme text : String) (manager : Manager Catalogue) :
    Prop where
  /-- The answer is the one that the catalogue gives. -/
  same : (Manager.recognize plugin text manager).answer =
    (plugin.recognize text manager.state).answer
  /-- The catalogue recognizes what begins with its scheme. -/
  begins : (plugin.recognize text manager.state).answer = true ↔
    scheme.toList <+: text.toList
  /-- With a known scheme the catalogue is not asked, and nothing changes. -/
  known : manager.scheme.isSome = true →
    (Manager.recognize plugin text manager).state = manager
  /-- Otherwise it is asked, which changes nothing but a count. -/
  unknown : manager.scheme = none →
    (Manager.recognize plugin text manager).state =
      { manager with state := manager.state.recordCall .recognize }
  /-- The catalogue counts one request if it was asked, and none if it was not. -/
  counted : ∀ name,
    (Manager.recognize plugin text manager).state.state.callCount name =
      manager.state.callCount name +
        if name = "is_entity_reference_string" ∧ manager.scheme = none then 1 else 0
  /-- A reference is made of a string that is recognized, and holds that string. -/
  created_iff : ∀ reference,
    (Manager.createReference plugin text manager).answer = .ok reference ↔
      (plugin.recognize text manager.state).answer = true ∧ reference.text = text
  /-- The request that may find no reference makes the same one. -/
  createdIfValid_iff : ∀ reference,
    (Manager.createReferenceIfValid plugin text manager).answer = some reference ↔
      (Manager.createReference plugin text manager).answer = .ok reference
  /-- A string that is not recognized is an error of the input. -/
  refused : (plugin.recognize text manager.state).answer = false →
    (Manager.createReference plugin text manager).answer =
      .error (.inputValidation ("Invalid entity reference: " ++ text))
  /-- Making a reference does to the manager what recognizing it does. -/
  state_createReference : (Manager.createReference plugin text manager).state =
    (Manager.recognize plugin text manager).state
  state_createReferenceIfValid :
    (Manager.createReferenceIfValid plugin text manager).state =
      (Manager.recognize plugin text manager).state

/-- Both ways agree if the host knows nothing else than what the references of the
catalogue begin with. -/
theorem recognitionAgrees {scheme : String} {manager : Manager Catalogue}
    (begins : manager.state.scheme = scheme)
    (learned : manager.scheme = none ∨ manager.scheme = some scheme) (text : String) :
    RecognitionAgrees scheme text manager := by
  have own : (plugin.recognize text manager.state).answer =
      Text.startsWith text scheme := by
    rw [← begins]
    rfl
  have known : manager.scheme.isSome = true →
      Manager.recognize plugin text manager =
        ⟨(plugin.recognize text manager.state).answer, manager, []⟩ := by
    intro known
    rcases learned with unknown | learned
    · rw [unknown] at known
      cases known
    · rw [Manager.recognize, learned, own]
  have unknown : manager.scheme = none →
      Manager.recognize plugin text manager =
        ⟨(plugin.recognize text manager.state).answer,
          { manager with state := manager.state.recordCall .recognize }, []⟩ := by
    intro unknown
    simp only [Manager.recognize, Manager.pass, unknown]
    rfl
  have same : (Manager.recognize plugin text manager).answer =
      (plugin.recognize text manager.state).answer := by
    cases case : manager.scheme with
    | none =>
        rw [unknown case]
    | some found =>
        rw [known (Option.isSome_of_eq_some case)]
  constructor
  case same =>
      exact same
  case begins =>
      rw [own]
      exact Text.startsWith_iff text scheme
  case known =>
      intro case
      rw [known case]
  case unknown =>
      intro case
      rw [unknown case]
  case counted =>
      intro name
      cases case : manager.scheme with
      | none =>
          rw [unknown case, callCount_recordCall, Call.name]
          simp only [and_true, eq_comm]
      | some found =>
          rw [known (Option.isSome_of_eq_some case)]
          simp
  case created_iff =>
      rintro ⟨made⟩
      rw [Manager.createReference, Reply.map, same]
      cases (plugin.recognize text manager.state).answer <;> simp [eq_comm]
  case createdIfValid_iff =>
      intro reference
      rw [Manager.createReference, Manager.createReferenceIfValid, Reply.map, Reply.map]
      cases (Manager.recognize plugin text manager).answer <;> simp
  case refused =>
      intro unrecognized
      rw [Manager.createReference, Reply.map, same, unrecognized]
      rfl
  case state_createReference =>
      rfl
  case state_createReferenceIfValid =>
      rfl

/-- A host of a catalogue that publishes what its references begin with recognizes the
same strings as the catalogue, at any time: before it was prepared, after it was, after
it refused to be prepared again and after any other use.  It asks the catalogue exactly
if it does not know what references begin with, and it makes references of the strings
that are recognized and of no others. -/
theorem recognize_agrees :
    (∀ (catalogue : Catalogue) (scheme : String),
      (catalogue.withScheme scheme).withPublishedScheme.Publishes scheme) ∧
    (∀ (catalogue : Catalogue) (scheme key : String) (value : PropertyValue),
      catalogue.Publishes scheme → key ≠ "entityReferencesMatchPrefix" →
        (catalogue.withInfo key value).Publishes scheme) ∧
    ∀ (catalogue : Catalogue) (scheme : String), catalogue.Publishes scheme →
      ∀ (events : List (ManagerEvent CataloguePager (Option ApiError))) (text : String),
        RecognitionAgrees scheme text
          (runEvents plugin refusing events (.ofState catalogue)) := by
  refine ⟨publishes_withPublishedScheme,
    fun catalogue scheme key value publishes other => publishes.withInfo other value,
    ?_⟩
  intro catalogue scheme publishes events text
  have later := publishes.of_setUp_eq (setUp_runEvents events (.ofState catalogue))
  exact recognitionAgrees later.begins
    (scheme_runEvents_of_publishes publishes events) text

/-- A catalogue of references that begin with `ref:`, which also names its vendor. -/
def described : Catalogue := publishing.withInfo "vendor" (.text "stock")

/-- A host knows the scheme of a catalogue from preparing it until preparing it fails.
It finds the same references with and without it, and asks the catalogue only without
it. -/
theorem recognize_agrees_described :
    let events : List (ManagerEvent CataloguePager (Option ApiError)) :=
      [.used (.prepare studio .empty), .used (.recognize "ref:a"),
        .changed (some (.unhandled "offline")), .used (.prepare studio .empty)]
    let prepared := runEvents plugin refusing (events.take 2) (.ofState described)
    let refused := runEvents plugin refusing events (.ofState described)
    described.Publishes "ref:" ∧ prepared.scheme = some "ref:" ∧ refused.scheme = none ∧
      (Manager.createReference plugin "ref:a" prepared).answer = .ok ⟨"ref:a"⟩ ∧
      (Manager.createReferenceIfValid plugin "ref:a" refused).answer = some ⟨"ref:a"⟩ ∧
      (Manager.recognize plugin "ref:a" prepared).state = prepared ∧
      (Manager.recognize plugin "ref:a" refused).state.state.callCount
          "is_entity_reference_string" =
        refused.state.callCount "is_entity_reference_string" + 1 ∧
      (Manager.createReference plugin "a" refused).answer =
        .error (.inputValidation ("Invalid entity reference: " ++ "a")) := by
  intro events prepared refused
  obtain ⟨built, kept, agrees⟩ := recognize_agrees
  have publishes : described.Publishes "ref:" :=
    kept publishing "ref:" "vendor" (.text "stock") (built (Catalogue.named "stock") "ref:")
      (by decide)
  have whilePrepared := agrees described "ref:" publishes (events.take 2) "ref:a"
  have whenRefused := agrees described "ref:" publishes events "ref:a"
  have otherText := agrees described "ref:" publishes events "a"
  refine ⟨publishes, rfl, rfl, (whilePrepared.created_iff ⟨"ref:a"⟩).2 ⟨?_, rfl⟩,
    (whenRefused.createdIfValid_iff ⟨"ref:a"⟩).2
      ((whenRefused.created_iff ⟨"ref:a"⟩).2 ⟨?_, rfl⟩),
    whilePrepared.known rfl, whenRefused.counted "is_entity_reference_string",
    otherText.refused ?_⟩
  · exact whilePrepared.begins.2 (by decide)
  · exact whenRefused.begins.2 (by decide)
  · decide

end AssetExchange
