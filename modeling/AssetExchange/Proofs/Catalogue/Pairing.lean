import AssetExchange.Proofs.Catalogue.Publishing

/-!
# The elements of a publishing request

A catalogue pairs the references of a publishing request with the data.  A host passes on
only lists of one length, and for those the pairs are the references and the data at each
index, without one being dropped: every index is reported, unless the host stops before,
and the report of a reference that is not refused publishes the data at its index
(`paired`).
-/

namespace AssetExchange

open Catalogue

variable {references : List EntityReference} {datas : List TraitsData}
  {access : PublishingAccess} {context : Context}

/-- Publishes what a report is about: the reference at its index, with the data there. -/
def storeAt (references : List EntityReference) (datas : List TraitsData)
    (catalogue : Catalogue) (report : Report EntityReference) : Catalogue :=
  match report.outcome, references[report.index]?, datas[report.index]? with
  | .ok _, some reference, some data => catalogue.withEntity reference.text data
  | _, _, _ => catalogue

/-- What a catalogue has to say about each reference that is to be published, with the
index of the reference. -/
def verdicts (references : List EntityReference) (catalogue : Catalogue) :
    List (Report EntityReference) :=
  references.zipIdx.map fun entry =>
    ⟨entry.2, catalogue.unlessError entry.1 (.ok entry.1)⟩

theorem leave_register :
    (BatchCall.register references datas access context).leave = storeAt references datas := by
  funext catalogue report
  obtain ⟨index, outcome⟩ := report
  cases outcome with
  | error error =>
      rfl
  | ok value =>
      simp only [BatchCall.leave, storeAt, List.zip_eq_zipWith, List.getElem?_zipWith]
      cases references[index]? with
      | none =>
          rfl
      | some reference =>
          cases datas[index]? <;> rfl

theorem perm_reports_register (sameLength : references.length = datas.length)
    (catalogue : Catalogue) :
    ((BatchCall.register references datas access context).reports catalogue).Perm
      (verdicts references catalogue) := by
  have outcomes : (BatchCall.register references datas access context).outcomes catalogue =
      references.map fun reference => catalogue.unlessError reference (.ok reference) := by
    conv_rhs => rw [← List.map_fst_zip (Nat.le_of_eq sameLength), List.map_map]
    rfl
  rw [BatchCall.reports, outcomes, verdicts, List.zipIdx_map, List.map_map]
  exact catalogue.order.arrange_perm _

/-! ## What is held afterwards -/

/-- Of several entities the only one with a reference is the one that was published last. -/
theorem lastPublished?_of_unique {pairs : List (EntityReference × TraitsData)}
    {pair : EntityReference × TraitsData} (member : pair ∈ pairs)
    (unique : ∀ other ∈ pairs, other.1.text = pair.1.text → other = pair) :
    lastPublished? pairs pair.1.text = some pair.2 := by
  unfold lastPublished?
  cases found : pairs.reverse.find? fun other => other.1.text == pair.1.text with
  | none =>
      have absent := List.find?_eq_none.1 found pair (List.mem_reverse.2 member)
      simp at absent
  | some other =>
      have same : other.1.text = pair.1.text := by
        simpa using List.find?_some found
      rw [unique other (List.mem_reverse.1 (List.mem_of_find?_eq_some found)) same]
      rfl

/-- A reference that is neither repeated nor refused is published with the data at its
index. -/
theorem lastPublished?_register (sameLength : references.length = datas.length)
    {catalogue : Catalogue} (noFailure : catalogue.callFailure = none)
    {answer : List (Report EntityReference) → Flow} (goesOn : ∀ heard, answer heard = .proceed)
    {index : Nat} {reference : EntityReference} {data : TraitsData}
    (found : references[index]? = some reference) (held : datas[index]? = some data)
    (unique : ∀ other,
      references[other]?.map EntityReference.text = some reference.text → other = index)
    (accepted : catalogue.elementErrors.get? reference.text = none) :
    lastPublished?
        ((BatchCall.register references datas access context).published answer catalogue)
        reference.text = some data := by
  have member : (reference, data) ∈ catalogue.order.arrange (references.zip datas) :=
    (CallbackOrder.mem_arrange_iff _).2
      (List.mem_of_getElem? (List.getElem?_zip_eq_some.2 ⟨found, held⟩))
  have published : (reference, data) ∈
      (BatchCall.register references datas access context).published answer catalogue := by
    obtain ⟨place, arranged⟩ := List.mem_iff_getElem?.1 member
    exact BatchCall.mem_published_iff.2
      ⟨⟨sameLength, noFailure⟩, place, arranged, accepted, fun _ _ _ => goesOn _⟩
  refine lastPublished?_of_unique published ?_
  intro other alsoPublished same
  obtain ⟨_, place, arranged, _, _⟩ := BatchCall.mem_published_iff.1 alsoPublished
  have inZip : other ∈ references.zip datas :=
    (CallbackOrder.mem_arrange_iff _).1 (List.mem_of_getElem? arranged)
  obtain ⟨position, inPlace⟩ := List.mem_iff_getElem?.1 inZip
  obtain ⟨first, second⟩ := List.getElem?_zip_eq_some.1 inPlace
  have here : position = index := unique position (by rw [first, Option.map_some, same])
  subst here
  rw [found] at first
  rw [held] at second
  exact Prod.ext (Option.some.inj first).symm (Option.some.inj second).symm

/-! ## The request -/

/-- What comes of a publishing request that a host passes on. -/
structure Paired (references : List EntityReference) (datas : List TraitsData)
    (access : PublishingAccess) (context : Context) (manager : Manager Catalogue) : Prop where
  /-- What is reported and what is left out makes up one report for each index, and nothing
  is left out unless an error was answered by `stop`.  The reports publish what stands at
  their indices. -/
  reported : manager.state.callFailure = none → ∀ answer, ∃ kept leftOut,
    (kept ++ leftOut).Perm (verdicts references manager.state) ∧
      (leftOut ≠ [] → ∃ before index error after,
        kept = before ++ ⟨index, .error error⟩ :: after ∧
          answer (before ++ [⟨index, .error error⟩]) = .stop) ∧
      (Manager.register plugin references datas access context manager).transcript answer [] =
        (kept,
          ⟨.ok (),
            { manager with
              state := kept.foldl (storeAt references datas)
                (manager.state.recordCall .register) }, []⟩)
  /-- A reference that is neither repeated nor refused has the data at its index then. -/
  stored : manager.state.callFailure = none → ∀ answer, (∀ heard, answer heard = .proceed) →
    ∀ (index : Nat) (reference : EntityReference) (data : TraitsData),
      references[index]? = some reference → datas[index]? = some data →
      (∀ other : Nat, references[other]?.map EntityReference.text = some reference.text →
        other = index) →
      manager.state.elementErrors.get? reference.text = none →
        ((Manager.register plugin references datas access context manager).transcript answer
          []).2.state.state.entity? reference.text = some data
  /-- A failure of the whole call comes before every element. -/
  failed : ∀ error, manager.state.callFailure = some error →
    Manager.register plugin references datas access context manager =
      .done ⟨.error error, { manager with state := manager.state.recordCall .register }, []⟩

theorem paired (sameLength : references.length = datas.length) (access : PublishingAccess)
    (context : Context) (manager : Manager Catalogue) :
    Paired references datas access context manager := by
  let call : BatchCall CataloguePager EntityReference := .register references datas access context
  have passed : call.check = none := by
    simp [call, BatchCall.check, Manager.checkLengths, sameLength]
  constructor
  case reported =>
    intro noFailure answer
    obtain ⟨kept, leftOut, split, ends, heard⟩ :=
      call.transcript_make answer manager.state noFailure
    refine ⟨kept, leftOut, ?_, ?_, ?_⟩
    · rw [← split]
      exact perm_reports_register sameLength manager.state
    · intro something
      obtain ⟨before, index, error, rfl, stopped⟩ := ends.stops something
      exact ⟨before, index, error, [], rfl, stopped⟩
    · refine (BatchCall.transcript_ask passed answer manager).trans ?_
      rw [heard, leave_register]
      rfl
  case stored =>
    intro noFailure answer goesOn index reference data found held unique accepted
    have last : lastPublished? (call.published answer manager.state) reference.text = some data :=
      lastPublished?_register sameLength noFailure goesOn found held unique accepted
    have entities := congrArg (·.get? reference.text) (call.entities_ask answer manager)
    simp only [get?_publishAll, last, Option.some_or] at entities
    exact entities
  case failed =>
    intro error failure
    have request : call.ask plugin manager = Manager.passBatch (call.make plugin) manager := by
      rw [BatchCall.ask_eq, passed]
      rfl
    have made := call.make_of_callFailure failure
    rw [Manager.passBatch, made] at request
    exact request

end AssetExchange
