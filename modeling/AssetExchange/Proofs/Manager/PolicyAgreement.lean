import AssetExchange.Proofs.Batch.Ruling
import AssetExchange.Proofs.Catalogue.Reporting

/-!
# Both error policies tell the same story

Let a manager report every element of a batch once.  What a call returns under
`exception` follows from what it returns under `variant`: the values if there are no
errors, or else the error that was reported first.  This stays so if under `exception`
the manager stops after that error, at once, later or never.  Catalogues are such
managers.
-/

namespace AssetExchange

variable {alpha tau : Type}

/-! ## Reports of a whole batch, and a beginning of them -/

/-- Every element of the batch is reported exactly once, in any order. -/
def Exhaustive (size : Nat) (reports : List (Report alpha)) : Prop :=
  (reports.map Report.index).Perm (List.range size)

/-- The reports are a beginning of others: all of them, or some that contain an
error. -/
def CutAfterError (reports kept : List (Report alpha)) : Prop :=
  ∃ leftOut, reports = kept ++ leftOut ∧
    (leftOut ≠ [] → ∃ index error, ⟨index, .error error⟩ ∈ kept)

/-- The result under `exception` is what the result under `variant` makes it: its
values if it has no errors, and otherwise the error that was reported first. -/
def PoliciesAgree
    (subjects : List EntityReference) (access : Option Access)
    (reports : List (Report alpha))
    (lenient : Outcome (List (ElementOutcome alpha)))
    (strict : Outcome (List alpha)) : Prop :=
  ∃ outcomes, lenient = .ok outcomes ∧
    (∀ values, strict = .ok values ↔ outcomes = values.map .ok) ∧
    ((∃ values, strict = .ok values) ∨
      ∃ index error, FirstError reports index error ∧
        outcomes[index]? = some (.error error) ∧
        strict = .error (.batchElement index error
          (error.exceptionMessage index subjects[index]? access)))

theorem Exhaustive.dutiful {size : Nat} {reports : List (Report alpha)}
    (exhaustive : Exhaustive size reports) : Dutiful size reports := by
  refine ⟨fun report member => ?_, exhaustive.nodup_iff.2 List.nodup_range⟩
  exact List.mem_range.1
    (exhaustive.mem_iff.1 (List.mem_map.2 ⟨report, member, rfl⟩))

theorem Exhaustive.mem_map_index {size : Nat} {reports : List (Report alpha)}
    (exhaustive : Exhaustive size reports) {index : Nat} (inside : index < size) :
    index ∈ reports.map Report.index :=
  exhaustive.mem_iff.2 (List.mem_range.2 inside)

theorem CutAfterError.refl (reports : List (Report alpha)) :
    CutAfterError reports reports :=
  ⟨[], (List.append_nil reports).symm, fun something => absurd rfl something⟩

/-- Without errors nothing is cut off. -/
theorem CutAfterError.eq_of_errorFree {reports kept : List (Report alpha)}
    (cut : CutAfterError reports kept) (errorFree : ErrorFree reports) :
    kept = reports := by
  obtain ⟨leftOut, rfl, error⟩ := cut
  cases leftOut with
  | nil =>
      exact (List.append_nil kept).symm
  | cons head rest =>
      obtain ⟨index, error, member⟩ := error (List.cons_ne_nil head rest)
      obtain ⟨value, impossible⟩ :=
        errorFree _ (List.mem_append_left _ member)
      cases impossible

/-- The first error is never cut off. -/
theorem CutAfterError.firstError {reports kept : List (Report alpha)}
    (cut : CutAfterError reports kept) {index : Nat} {error : BatchElementError}
    (first : FirstError reports index error) : FirstError kept index error := by
  rcases errorFree_or_firstError kept with errorFree | ⟨other, otherError, earliest⟩
  · obtain ⟨leftOut, rfl, someError⟩ := cut
    cases leftOut with
    | nil =>
        rw [List.append_nil] at first
        exact first
    | cons head rest =>
        obtain ⟨place, held, member⟩ := someError (List.cons_ne_nil head rest)
        obtain ⟨value, impossible⟩ := errorFree _ member
        cases impossible
  -- The first error of a beginning is the first error of the whole.
  · obtain ⟨leftOut, rfl, _⟩ := cut
    obtain ⟨rfl, rfl⟩ := first.unique (earliest.append leftOut)
    exact earliest

theorem EndsAtStop.cutAfterError {answer : List (Report alpha) → Flow}
    {kept leftOut : List (Report alpha)}
    (ends : EndsAtStop answer kept leftOut) :
    CutAfterError (kept ++ leftOut) kept := by
  refine ⟨leftOut, rfl, fun something => ?_⟩
  obtain ⟨before, index, error, same, _⟩ := ends.stops something
  exact ⟨index, error, by rw [same]; simp⟩

/-! ## Agreement of collected calls -/

section Finish

variable {subjects : List EntityReference} {access : Option Access}
  {reports kept : List (Report alpha)}

/-- The values of a batch that was reported as a whole and without errors. -/
theorem Exhaustive.exists_values {size : Nat}
    (exhaustive : Exhaustive size reports) (errorFree : ErrorFree reports) :
    ∃ values : List alpha, values.length = size ∧
      ∀ index value, values[index]? = some value →
        ⟨index, .ok value⟩ ∈ reports :=
  exists_list_of_forall_lt size fun _ inside =>
    ErrorPolicy.exception.exists_element (fun _ => errorFree)
      (exhaustive.mem_map_index inside)

/-- The outcomes of a batch that was reported as a whole. -/
theorem Exhaustive.exists_outcomes {size : Nat}
    (exhaustive : Exhaustive size reports) :
    ∃ outcomes : List (ElementOutcome alpha), outcomes.length = size ∧
      ∀ index outcome, outcomes[index]? = some outcome →
        ⟨index, outcome⟩ ∈ reports :=
  exists_list_of_forall_lt size fun _ inside =>
    ErrorPolicy.variant.exists_element (fun strict => nomatch strict)
      (exhaustive.mem_map_index inside)

theorem finish_variant_of_outcomes
    (dutiful : Dutiful subjects.length reports)
    {outcomes : List (ElementOutcome alpha)}
    (sameLength : outcomes.length = subjects.length)
    (reported : ∀ index outcome, outcomes[index]? = some outcome →
      ⟨index, outcome⟩ ∈ reports) :
    ErrorPolicy.variant.finish subjects access
        (Collector.ofReports subjects.length reports) = .ok outcomes :=
  ErrorPolicy.variant.finish_of_reported dutiful (fun strict => nomatch strict)
    sameLength reported

theorem finish_exception_of_values
    (dutiful : Dutiful subjects.length reports) (errorFree : ErrorFree reports)
    {values : List alpha} (sameLength : values.length = subjects.length)
    (reported : ∀ index value, values[index]? = some value →
      ⟨index, .ok value⟩ ∈ reports) :
    ErrorPolicy.exception.finish subjects access
        (Collector.ofReports subjects.length reports) = .ok values :=
  ErrorPolicy.exception.finish_of_reported dutiful (fun _ => errorFree)
    sameLength reported

/-- Without errors `exception` returns the values and `variant` the same values as
outcomes. -/
theorem policiesAgree_of_errorFree
    (exhaustive : Exhaustive subjects.length reports)
    (errorFree : ErrorFree reports) :
    PoliciesAgree subjects access reports
      (ErrorPolicy.variant.finish subjects access
        (Collector.ofReports subjects.length reports))
      (ErrorPolicy.exception.finish subjects access
        (Collector.ofReports subjects.length reports)) := by
  obtain ⟨values, sameLength, reported⟩ := exhaustive.exists_values errorFree
  have reportedOutcomes : ∀ index outcome,
      (values.map Except.ok)[index]? = some outcome →
        ⟨index, outcome⟩ ∈ reports := by
    intro index outcome held
    rw [List.getElem?_map, Option.map_eq_some_iff] at held
    obtain ⟨value, found, rfl⟩ := held
    exact reported index value found
  rw [finish_exception_of_values exhaustive.dutiful errorFree sameLength reported]
  refine ⟨values.map .ok, ?_, fun others => ?_, Or.inl ⟨values, rfl⟩⟩
  · exact finish_variant_of_outcomes exhaustive.dutiful (by simpa using sameLength)
      reportedOutcomes
  · rw [List.map_inj_right (fun _ _ => Except.ok.inj)]
    exact Except.ok.injEq values others ▸ Iff.rfl

/-- With errors `exception` returns the first of them, and `variant` holds it at its
index. -/
theorem policiesAgree_of_firstError
    (exhaustive : Exhaustive subjects.length reports)
    (cut : CutAfterError reports kept) {index : Nat} {error : BatchElementError}
    (first : FirstError reports index error) :
    PoliciesAgree subjects access reports
      (ErrorPolicy.variant.finish subjects access
        (Collector.ofReports subjects.length reports))
      (ErrorPolicy.exception.finish subjects access
        (Collector.ofReports subjects.length kept)) := by
  have dutiful := exhaustive.dutiful
  have keptDutiful : Dutiful subjects.length kept := by
    obtain ⟨leftOut, rfl, _⟩ := cut
    exact dutiful.of_append
  obtain ⟨outcomes, sameLength, reported⟩ := exhaustive.exists_outcomes
  have held : outcomes[index]? = some (.error error) := by
    have inside : index < outcomes.length :=
      sameLength.symm ▸ dutiful.within _ first.mem
    have found := List.getElem?_eq_getElem inside
    have sameReport := dutiful.eq_of_index_eq first.mem
      (reported index _ found) rfl
    simp only [Report.mk.injEq, true_and] at sameReport
    rw [found, ← sameReport]
  rw [ErrorPolicy.finish_of_firstError keptDutiful (cut.firstError first)]
  refine ⟨outcomes, finish_variant_of_outcomes dutiful sameLength reported, ?_,
    Or.inr ⟨index, error, first, held, rfl⟩⟩
  intro values
  refine iff_of_false (fun impossible => nomatch impossible) ?_
  rintro rfl
  rw [List.getElem?_map, Option.map_eq_some_iff] at held
  obtain ⟨value, _, impossible⟩ := held
  cases impossible

/-- Agreement holds of the results that both policies make of the reports, when the
reports under `exception` were cut off after an error. -/
theorem policiesAgree_finish
    (exhaustive : Exhaustive subjects.length reports)
    (cut : CutAfterError reports kept) :
    PoliciesAgree subjects access reports
      (ErrorPolicy.variant.finish subjects access
        (Collector.ofReports subjects.length reports))
      (ErrorPolicy.exception.finish subjects access
        (Collector.ofReports subjects.length kept)) := by
  rcases errorFree_or_firstError reports with errorFree | ⟨index, error, first⟩
  · rw [cut.eq_of_errorFree errorFree]
    exact policiesAgree_of_errorFree exhaustive errorFree
  · exact policiesAgree_of_firstError exhaustive cut first

end Finish

/-- The reports and the result under `variant` leave one result under `exception`. -/
theorem PoliciesAgree.unique {subjects : List EntityReference}
    {access : Option Access} {reports : List (Report alpha)}
    {lenient : Outcome (List (ElementOutcome alpha))}
    {strict other : Outcome (List alpha)}
    (first : PoliciesAgree subjects access reports lenient strict)
    (second : PoliciesAgree subjects access reports lenient other) :
    strict = other := by
  obtain ⟨outcomes, rfl, okIff, ends⟩ := first
  obtain ⟨others, same, otherOkIff, otherEnds⟩ := second
  cases Except.ok.inj same
  rcases ends with ⟨values, rfl⟩ | ⟨index, error, earliest, _, rfl⟩
  · exact ((otherOkIff values).2 ((okIff values).1 rfl)).symm
  · rcases otherEnds with ⟨values, rfl⟩ | ⟨place, held, otherEarliest, _, rfl⟩
    · exact (okIff values).2 ((otherOkIff values).1 rfl)
    · obtain ⟨rfl, rfl⟩ := earliest.unique otherEarliest
      rfl

theorem policiesAgree_collect
    {subjects : List EntityReference} (access : Option Access)
    {reports kept : List (Report alpha)} {full cut : BatchRequest tau alpha}
    {fullState cutState : tau}
    (exhaustive : Exhaustive subjects.length reports)
    (fullReceived : ErrorPolicy.variant.Receives (full fullState) reports)
    (cutAfter : CutAfterError reports kept)
    (cutReceived : ErrorPolicy.exception.Receives (cut cutState) kept) :
    PoliciesAgree subjects access reports
      (Manager.collect .variant subjects access full fullState).answer
      (Manager.collect .exception subjects access cut cutState).answer := by
  rw [collect_answer_of_receives subjects access fullReceived,
    collect_answer_of_receives subjects access cutReceived]
  exact policiesAgree_finish exhaustive cutAfter

/-! ## Catalogues behind the host's view -/

section Catalogues

variable {manager : Manager Catalogue}

theorem hears_passBatch (policy : ErrorPolicy) (batch : BatchRequest Catalogue alpha) :
    (policy.hears (Manager.passBatch batch manager)).1 =
        (policy.hears (batch manager.state)).1 ∧
      (policy.hears (Manager.passBatch batch manager)).2.answer =
        (policy.hears (batch manager.state)).2.answer := by
  unfold ErrorPolicy.hears Manager.passBatch
  rw [BatchRun.transcript_mapResult]
  exact ⟨rfl, rfl⟩

theorem BatchCall.exhaustive_reports (call : BatchCall CataloguePager alpha)
    (catalogue : Catalogue) : Exhaustive call.size (call.reports catalogue) := by
  unfold Exhaustive
  rw [call.map_index_reports]
  exact catalogue.order.arrange_perm _

/-- Under `variant` all reports of a catalogue are received, and under `exception`
those up to the first error. -/
theorem BatchCall.receives_passBatch (call : BatchCall CataloguePager alpha)
    (noFailure : manager.state.callFailure = none) :
    ErrorPolicy.variant.Receives
        (Manager.passBatch (call.make Catalogue.plugin) manager)
        (call.reports manager.state) ∧
      ∃ kept, CutAfterError (call.reports manager.state) kept ∧
        ErrorPolicy.exception.Receives
          (Manager.passBatch (call.make Catalogue.plugin) manager) kept := by
  constructor
  · obtain ⟨kept, leftOut, split, ends, heard⟩ :=
      call.transcript_make ErrorPolicy.variant.answers manager.state noFailure
    have nothing := ends.leftOut_eq_nil (fun _ _ _ _ _ => rfl)
    rw [nothing, List.append_nil] at split
    rw [split]
    unfold ErrorPolicy.Receives
    rw [(hears_passBatch .variant _).1, (hears_passBatch .variant _).2,
      ErrorPolicy.hears, heard]
    exact ⟨rfl, rfl⟩
  · obtain ⟨kept, leftOut, split, ends, heard⟩ :=
      call.transcript_make ErrorPolicy.exception.answers manager.state noFailure
    refine ⟨kept, split ▸ ends.cutAfterError, ?_⟩
    unfold ErrorPolicy.Receives
    rw [(hears_passBatch .exception _).1, (hears_passBatch .exception _).2,
      ErrorPolicy.hears, heard]
    exact ⟨rfl, rfl⟩

theorem BatchCall.policiesAgree (call : BatchCall CataloguePager alpha)
    (subjects : List EntityReference) (access : Option Access)
    (sameSize : subjects.length = call.size)
    (noFailure : manager.state.callFailure = none) :
    PoliciesAgree subjects access (call.reports manager.state)
      (Manager.collect .variant subjects access
        (Manager.passBatch (call.make Catalogue.plugin)) manager).answer
      (Manager.collect .exception subjects access
        (Manager.passBatch (call.make Catalogue.plugin)) manager).answer := by
  obtain ⟨fullReceived, kept, cutAfter, cutReceived⟩ :=
    call.receives_passBatch noFailure
  have exhaustive := call.exhaustive_reports manager.state
  rw [← sameSize] at exhaustive
  exact policiesAgree_collect access exhaustive fullReceived cutAfter cutReceived

end Catalogues

/-- Both error policies agree, and stopping early is not observed.

Let a batch report every element exactly once, in any order.  Under `exception`, with
the same reports cut off anywhere after the first error, the result is the list of
values if the outcomes under `variant` are these values, and otherwise the error that
was reported first, which `variant` holds at its index.  Where the reports were cut off
makes no difference.

This covers the requests about many entities of a catalogue that reports in either
order. -/
theorem policies_agree :
    (∀ (alpha tau : Type) (subjects : List EntityReference) (access : Option Access)
      (reports kept others : List (Report alpha))
      (full cut other : BatchRequest tau alpha) (fullState cutState otherState : tau),
      Exhaustive subjects.length reports →
      ErrorPolicy.variant.Receives (full fullState) reports →
      CutAfterError reports kept →
      ErrorPolicy.exception.Receives (cut cutState) kept →
      CutAfterError reports others →
      ErrorPolicy.exception.Receives (other otherState) others →
      PoliciesAgree subjects access reports
          (Manager.collect .variant subjects access full fullState).answer
          (Manager.collect .exception subjects access cut cutState).answer ∧
        (Manager.collect .exception subjects access cut cutState).answer =
          (Manager.collect .exception subjects access other otherState).answer) ∧
    ∀ (manager : Manager Catalogue) (references : List EntityReference)
      (context : Context),
      manager.state.callFailure = none → manager.state.order ≠ .threaded →
      (∀ traits access, PoliciesAgree references (some access.mode)
        ((BatchCall.resolve references traits access context).reports manager.state)
        (Manager.resolveMany Catalogue.plugin .variant references traits access
          context manager).answer
        (Manager.resolveMany Catalogue.plugin .exception references traits access
          context manager).answer) ∧
      (∀ hints access, references.length = hints.length →
        PoliciesAgree references (some access.mode)
          ((BatchCall.preflight references hints access context).reports
            manager.state)
          (Manager.preflightMany Catalogue.plugin .variant references hints access
            context manager).answer
          (Manager.preflightMany Catalogue.plugin .exception references hints access
            context manager).answer) ∧
      (∀ datas access, references.length = datas.length →
        PoliciesAgree references (some access.mode)
          ((BatchCall.register references datas access context).reports
            manager.state)
          (Manager.registerMany Catalogue.plugin .variant references datas access
            context manager).answer
          (Manager.registerMany Catalogue.plugin .exception references datas access
            context manager).answer) ∧
      PoliciesAgree references none
        ((BatchCall.entityExists references context).reports manager.state)
        (Manager.entityExistsMany Catalogue.plugin .variant references
          context manager).answer
        (Manager.entityExistsMany Catalogue.plugin .exception references
          context manager).answer ∧
      ∀ access, PoliciesAgree references (some access.mode)
        ((BatchCall.entityTraits references access context).reports manager.state)
        (Manager.entityTraitsMany Catalogue.plugin .variant references access
          context manager).answer
        (Manager.entityTraitsMany Catalogue.plugin .exception references access
          context manager).answer := by
  constructor
  · intro alpha tau subjects access reports kept others full cut other
      fullState cutState otherState exhaustive fullReceived cutAfter cutReceived
      otherAfter otherReceived
    have first :=
      policiesAgree_collect access exhaustive fullReceived cutAfter cutReceived
    have second :=
      policiesAgree_collect access exhaustive fullReceived otherAfter otherReceived
    exact ⟨first, first.unique second⟩
  · intro manager references context noFailure _
    refine ⟨fun traits access => ?_, fun hints access sameLength => ?_,
      fun datas access sameLength => ?_, ?_, fun access => ?_⟩
    · exact (BatchCall.resolve references traits access context).policiesAgree
        references _ rfl noFailure
    · have agree :=
        (BatchCall.preflight references hints access context).policiesAgree
          references (some access.mode) rfl noFailure
      unfold Manager.preflightMany Manager.preflight Manager.guarded
        Manager.checkLengths
      rw [if_neg (not_not_intro sameLength)]
      exact agree
    · have agree :=
        (BatchCall.register references datas access context).policiesAgree
          references (some access.mode) (by simp [BatchCall.size, sameLength])
          noFailure
      unfold Manager.registerMany Manager.register Manager.guarded
        Manager.checkLengths
      rw [if_neg (not_not_intro sameLength)]
      exact agree
    · exact (BatchCall.entityExists references context).policiesAgree
        references none rfl noFailure
    · exact (BatchCall.entityTraits references access context).policiesAgree
        references _ rfl noFailure

def middleFailure : List (Report Nat) :=
  [⟨2, .ok 7⟩, ⟨1, .error ⟨.authError, "denied"⟩⟩, ⟨0, .ok 5⟩]

/-- A manager that stops at the failure in the middle and one that goes on, and a
catalogue that reports backwards. -/
theorem policies_agree_middleFailure :
    (PoliciesAgree threeReferences none middleFailure
        (Manager.collect .variant threeReferences none
          (.reporting middleFailure) ()).answer
        (Manager.collect .exception threeReferences none
          (.reporting (middleFailure.take 2)) ()).answer ∧
      (Manager.collect .exception threeReferences none
          (.reporting (middleFailure.take 2)) ()).answer =
        (Manager.collect .exception threeReferences none
          (.reporting middleFailure) ()).answer) ∧
    PoliciesAgree threeReferences none
      ((BatchCall.entityExists threeReferences .empty).reports backwards)
      (Manager.entityExistsMany Catalogue.plugin .variant threeReferences .empty
        (.ofState backwards)).answer
      (Manager.entityExistsMany Catalogue.plugin .exception threeReferences .empty
        (.ofState backwards)).answer := by
  constructor
  · apply policies_agree.1 Nat Unit threeReferences none middleFailure
      (middleFailure.take 2) middleFailure
    · exact List.reverse_perm [0, 1, 2]
    · exact ErrorPolicy.receives_reporting .variant middleFailure ()
    · exact ⟨[⟨0, .ok 5⟩], rfl, fun _ => ⟨1, _, List.mem_cons_of_mem _ List.mem_cons_self⟩⟩
    · exact ErrorPolicy.receives_reporting .exception (middleFailure.take 2) ()
    · exact CutAfterError.refl middleFailure
    · exact ErrorPolicy.receives_reporting .exception middleFailure ()
  · exact (policies_agree.2 (.ofState backwards) threeReferences .empty rfl
      (by decide)).2.2.2.1

end AssetExchange
