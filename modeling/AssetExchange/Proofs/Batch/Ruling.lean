import AssetExchange.Manager.Shapes
import AssetExchange.Proofs.Batch.Reflection
import AssetExchange.Proofs.Batch.Transcript
import Mathlib.Data.Nat.Find

/-!
# The result of a collected call

A call that collects the reports of a batch has five kinds of result, and they exclude
one another in a fixed order: an error of the call itself, a breach of the manager's
duty, the first error of an element (under `exception` only), an element that was never
reported, and the list of all elements.  `Ruling` writes these rules down in terms of
the reports that were made.  The rules name a result for all reports, and a call has
that result, whatever a manager reports.
-/

namespace AssetExchange

variable {alpha rho tau : Type}

namespace ErrorPolicy

def answers : ErrorPolicy → List (Report alpha) → Flow
  | exception, _ => .stop
  | variant, _ => .proceed

/-- What a call under a policy hears of a run, and what the run returns. -/
def hears (policy : ErrorPolicy) (run : BatchRun alpha rho) :
    List (Report alpha) × rho :=
  run.transcript policy.answers []

/-- The outcome that an element of the result stands for. -/
def outcomeOf : (policy : ErrorPolicy) → policy.Element alpha → ElementOutcome alpha
  | exception, value => .ok value
  | variant, outcome => outcome

/-- A call under a policy hears these reports, and the batch returns without an error
of its own. -/
def Receives (policy : ErrorPolicy)
    (run : BatchRun alpha (Reply tau (Outcome Unit)))
    (reports : List (Report alpha)) : Prop :=
  (policy.hears run).1 = reports ∧ (policy.hears run).2.answer = .ok ()

end ErrorPolicy

/-- The batch that makes these reports, whatever the answers, and returns. -/
def BatchRequest.reporting (reports : List (Report alpha)) : BatchRequest tau alpha :=
  fun state => .ofReports false ⟨.ok (), state, []⟩ reports

/-- Every list of reports is received from some batch. -/
theorem ErrorPolicy.receives_reporting (policy : ErrorPolicy)
    (reports : List (Report alpha)) (state : tau) :
    policy.Receives (BatchRequest.reporting reports state) reports := by
  simp [Receives, hears, BatchRequest.reporting, BatchRun.transcript_ofReports]

/-- The rules for the result of a call under a policy, over the reports that were
made and what the call itself returned. -/
inductive Ruling
    (policy : ErrorPolicy) (subjects : List EntityReference)
    (access : Option Access) (reports : List (Report alpha)) :
    Outcome Unit → Outcome (List (policy.Element alpha)) → Prop
  /-- An error of the call itself comes before everything that was reported. -/
  | callFailed (error : ApiError) :
      Ruling policy subjects access reports (.error error) (.error error)
  /-- The first report beyond the batch, or of an element that was reported before,
  ends the call. -/
  | breached (fault : Fault)
      (first : FirstBreach subjects.length reports fault) :
      Ruling policy subjects access reports (.ok ())
        (.error (.unhandled fault.message))
  /-- Under `exception` the first error to be reported ends the call, even if other
  elements were never reported. -/
  | elementFailed (index : Nat) (error : BatchElementError)
      (dutiful : Dutiful subjects.length reports)
      (strict : policy = .exception)
      (first : FirstError reports index error) :
      Ruling policy subjects access reports (.ok ())
        (.error (.batchElement index error
          (error.exceptionMessage index subjects[index]? access)))
  /-- The smallest index that was never reported ends the call. -/
  | unreported (index : Nat)
      (dutiful : Dutiful subjects.length reports)
      (errorFree : policy = .exception → ErrorFree reports)
      (inside : index < subjects.length)
      (missing : index ∉ reports.map Report.index)
      (smallest : ∀ smaller < index, smaller ∈ reports.map Report.index) :
      Ruling policy subjects access reports (.ok ())
        (.error (.unhandled (Fault.missingResult index).message))
  /-- Otherwise every element comes back as it was reported, in the order of the
  batch. -/
  | complete (elements : List (policy.Element alpha))
      (dutiful : Dutiful subjects.length reports)
      (errorFree : policy = .exception → ErrorFree reports)
      (sameLength : elements.length = subjects.length)
      (reported : ∀ index element, elements[index]? = some element →
        ⟨index, policy.outcomeOf element⟩ ∈ reports) :
      Ruling policy subjects access reports (.ok ()) (.ok elements)

/-! ## Reading a collector -/

namespace Collector

/-- Outcomes that are all there are read off in order. -/
theorem filledFrom_map_some (start : Nat) (outcomes : List (ElementOutcome alpha)) :
    filledFrom start (outcomes.map some) = .ok outcomes := by
  induction outcomes generalizing start with
  | nil =>
      rfl
  | cons outcome rest inductionHypothesis =>
      simp only [List.map_cons, filledFrom, inductionHypothesis]
      rfl

/-- The first empty slot is the one that is complained about. -/
theorem filledFrom_eq_error
    (start : Nat) (slots : List (Option (ElementOutcome alpha))) (index : Nat)
    (empty : slots[index]? = some none)
    (filled : ∀ smaller < index, ∃ outcome,
      slots[smaller]? = some (some outcome)) :
    filledFrom start slots =
      .error (Fault.missingResult (start + index)).toError := by
  induction slots generalizing start index with
  | nil =>
      simp at empty
  | cons slot rest inductionHypothesis =>
      cases index with
      | zero =>
          simp only [List.getElem?_cons_zero, Option.some.injEq] at empty
          rw [empty]
          rfl
      | succ index =>
          obtain ⟨outcome, head⟩ := filled 0 (Nat.succ_pos index)
          simp only [List.getElem?_cons_zero, Option.some.injEq] at head
          have tail := inductionHypothesis (start + 1) index empty
            (fun smaller below => filled (smaller + 1) (Nat.succ_lt_succ below))
          rw [head]
          simp only [filledFrom, tail, Nat.add_assoc, Nat.add_comm 1 index]
          rfl

end Collector

namespace Collector.Reflects

variable {size : Nat} {reports : List (Report alpha)}
  {collector : Collector alpha}

theorem violation_eq_none (reflects : Collector.Reflects size reports collector)
    (dutiful : Dutiful size reports) : collector.violation = none := by
  rcases reflects.violation with ⟨unset, _⟩ | ⟨fault, _, first⟩
  · exact unset
  · exact absurd dutiful first.not_dutiful

theorem slot_eq_none (reflects : Collector.Reflects size reports collector)
    {index : Nat} (inside : index < size)
    (missing : index ∉ reports.map Report.index) :
    collector.slots[index]? = some none := by
  have filled := reflects.slot_filled_iff index
  have bound : index < collector.slots.length := reflects.length_slots.symm ▸ inside
  rw [List.getElem?_eq_getElem bound] at filled ⊢
  cases slot : collector.slots[index] with
  | none =>
      rfl
  | some outcome =>
      rw [slot] at filled
      exact absurd (filled.1 ⟨outcome, rfl⟩).2 missing

theorem firstReportedError?_of_errorFree
    (reflects : Collector.Reflects size reports collector)
    (dutiful : Dutiful size reports) (errorFree : ErrorFree reports) :
    collector.firstReportedError? = none := by
  rcases reflects.firstError with ⟨unset, _⟩ | ⟨index, error, _, first⟩
  · simp [firstReportedError?, unset]
  · rw [dutiful.accepted_eq] at first
    exact absurd errorFree first.not_errorFree

theorem firstReportedError?_of_firstError
    (reflects : Collector.Reflects size reports collector)
    (dutiful : Dutiful size reports) {index : Nat} {error : BatchElementError}
    (first : FirstError reports index error) :
    collector.firstReportedError? = some (index, error) := by
  have held : collector.slots[index]? = some (some (.error error)) := by
    rw [reflects.slot_iff, dutiful.accepted_eq]
    exact first.mem
  rcases reflects.firstError with ⟨_, errorFree⟩ | ⟨other, otherError, set, earliest⟩
  · rw [dutiful.accepted_eq] at errorFree
    exact absurd errorFree first.not_errorFree
  · rw [dutiful.accepted_eq] at earliest
    obtain ⟨rfl, rfl⟩ := first.unique earliest
    simp [firstReportedError?, set, held]

theorem outcomes_of_missing
    (reflects : Collector.Reflects size reports collector)
    {index : Nat} (inside : index < size)
    (missing : index ∉ reports.map Report.index)
    (smallest : ∀ smaller < index, smaller ∈ reports.map Report.index) :
    collector.outcomes = .error (Fault.missingResult index).toError := by
  have read := filledFrom_eq_error 0 collector.slots index
    (reflects.slot_eq_none inside missing)
    (fun smaller below => (reflects.slot_filled_iff smaller).2
      ⟨Nat.lt_trans below inside, smallest smaller below⟩)
  rwa [Nat.zero_add] at read

theorem outcomes_of_reported
    (reflects : Collector.Reflects size reports collector)
    (dutiful : Dutiful size reports)
    {outcomes : List (ElementOutcome alpha)} (sameLength : outcomes.length = size)
    (reported : ∀ index outcome, outcomes[index]? = some outcome →
      ⟨index, outcome⟩ ∈ reports) :
    collector.outcomes = .ok outcomes := by
  have slots : collector.slots = outcomes.map some := by
    apply List.ext_getElem?
    intro index
    rw [List.getElem?_map]
    cases held : outcomes[index]? with
    | none =>
        have outside := List.getElem?_eq_none_iff.1 held
        rw [sameLength, ← reflects.length_slots] at outside
        exact List.getElem?_eq_none outside
    | some outcome =>
        rw [Option.map_some, reflects.slot_iff, dutiful.accepted_eq]
        exact reported index outcome held
  unfold Collector.outcomes
  rw [slots, filledFrom_map_some]

end Collector.Reflects

/-! ## The results under a policy -/

namespace ErrorPolicy

variable {subjects : List EntityReference} {access : Option Access}
  {reports : List (Report alpha)}

theorem valuesFrom_map_ok (start : Nat) (values : List alpha) :
    valuesFrom subjects access start (values.map .ok) = .ok values := by
  induction values generalizing start with
  | nil =>
      rfl
  | cons value rest inductionHypothesis =>
      simp only [List.map_cons, valuesFrom, inductionHypothesis]
      rfl

theorem finish_of_firstBreach (policy : ErrorPolicy) {fault : Fault}
    (first : FirstBreach subjects.length reports fault) :
    policy.finish subjects access
        (Collector.ofReports subjects.length reports) =
      .error fault.toError := by
  rcases (Collector.reflects_ofReports subjects.length reports).violation with
    ⟨_, dutiful⟩ | ⟨other, set, earliest⟩
  · exact absurd dutiful first.not_dutiful
  · rw [first.unique earliest]
    simp [finish, set]

/-- A collector of a dutiful manager's reports leaves the result to the policy. -/
theorem finish_of_dutiful (policy : ErrorPolicy)
    (dutiful : Dutiful subjects.length reports) :
    policy.finish subjects access
        (Collector.ofReports subjects.length reports) =
      policy.elements subjects access
        (Collector.ofReports subjects.length reports) := by
  have unset :=
    (Collector.reflects_ofReports subjects.length reports).violation_eq_none
      dutiful
  simp [finish, unset]

theorem finish_of_firstError {index : Nat} {error : BatchElementError}
    (dutiful : Dutiful subjects.length reports)
    (first : FirstError reports index error) :
    exception.finish subjects access
        (Collector.ofReports subjects.length reports) =
      .error (.ofElement index error subjects access) := by
  have found :=
    (Collector.reflects_ofReports subjects.length reports)
      |>.firstReportedError?_of_firstError dutiful first
  rw [finish_of_dutiful exception dutiful]
  simp only [elements, found]

/-- Without an error among the reports both policies pass on what is missing. -/
theorem finish_of_missing (policy : ErrorPolicy) {index : Nat}
    (dutiful : Dutiful subjects.length reports)
    (errorFree : policy = exception → ErrorFree reports)
    (inside : index < subjects.length)
    (missing : index ∉ reports.map Report.index)
    (smallest : ∀ smaller < index, smaller ∈ reports.map Report.index) :
    policy.finish subjects access
        (Collector.ofReports subjects.length reports) =
      .error (Fault.missingResult index).toError := by
  have reflects := Collector.reflects_ofReports subjects.length reports
  have outcomes := reflects.outcomes_of_missing inside missing smallest
  rw [finish_of_dutiful policy dutiful]
  cases policy with
  | exception =>
      have noError :=
        reflects.firstReportedError?_of_errorFree dutiful (errorFree rfl)
      simp only [elements, noError, outcomes]
      rfl
  | variant =>
      exact outcomes

theorem finish_of_reported (policy : ErrorPolicy)
    {values : List (policy.Element alpha)}
    (dutiful : Dutiful subjects.length reports)
    (errorFree : policy = exception → ErrorFree reports)
    (sameLength : values.length = subjects.length)
    (reported : ∀ index element, values[index]? = some element →
      ⟨index, policy.outcomeOf element⟩ ∈ reports) :
    policy.finish subjects access
        (Collector.ofReports subjects.length reports) =
      .ok values := by
  have reflects := Collector.reflects_ofReports subjects.length reports
  have outcomes : (Collector.ofReports subjects.length reports).outcomes =
      .ok (values.map policy.outcomeOf) := by
    apply reflects.outcomes_of_reported dutiful (by simpa using sameLength)
    intro index outcome held
    rw [List.getElem?_map, Option.map_eq_some_iff] at held
    obtain ⟨element, found, rfl⟩ := held
    exact reported index element found
  rw [finish_of_dutiful policy dutiful]
  cases policy with
  | exception =>
      have noError :=
        reflects.firstReportedError?_of_errorFree dutiful (errorFree rfl)
      simp only [elements, noError, outcomes]
      exact valuesFrom_map_ok 0 values
  | variant =>
      have same : values.map variant.outcomeOf = values := List.map_id values
      rw [same] at outcomes
      exact outcomes

end ErrorPolicy

/-- A collected call answers with its own error, or else finishes the collector of
the reports that it heard. -/
theorem collect_eq (policy : ErrorPolicy) (subjects : List EntityReference)
    (access : Option Access) (batch : BatchRequest tau alpha) (state : tau) :
    Manager.collect policy subjects access batch state =
      (policy.hears (batch state)).2.map fun
        | .error error => .error error
        | .ok () => policy.finish subjects access
            (Collector.ofReports subjects.length
              (policy.hears (batch state)).1) := by
  let listener : Listener (Collector alpha) alpha :=
    Collector.listener policy.stopsOnError
  have sameRule : ∀ before index error,
      listener.rule (Collector.ofSize subjects.length)
          (before ++ [⟨index, .error error⟩]) =
        policy.answers (before ++ [⟨index, .error error⟩]) := by
    intro before index error
    rw [Listener.rule_append_error]
    cases policy <;> rfl
  have heardAs : listener.hear =
      fun collector report => collector.record report.index report.outcome := by
    funext collector report
    exact Collector.hear_listener _ collector report
  unfold Manager.collect
  rw [BatchRun.drive_eq_transcript, BatchRun.transcript_congr sameRule, heardAs]
  rfl

/-- The call's own error comes first. -/
theorem collect_answer_of_error (policy : ErrorPolicy)
    (subjects : List EntityReference) (access : Option Access)
    (batch : BatchRequest tau alpha) (state : tau) {error : ApiError}
    (failed : (policy.hears (batch state)).2.answer = .error error) :
    (Manager.collect policy subjects access batch state).answer =
      .error error := by
  rw [collect_eq]
  simp only [Reply.map, failed]

theorem collect_answer_of_receives {policy : ErrorPolicy}
    (subjects : List EntityReference) (access : Option Access)
    {batch : BatchRequest tau alpha} {state : tau} {reports : List (Report alpha)}
    (received : policy.Receives (batch state) reports) :
    (Manager.collect policy subjects access batch state).answer =
      policy.finish subjects access
        (Collector.ofReports subjects.length reports) := by
  obtain ⟨rfl, returned⟩ := received
  rw [collect_eq]
  simp only [Reply.map, returned]

/-! ## The rules decide -/

section Ruling

variable {policy : ErrorPolicy} {subjects : List EntityReference}
  {access : Option Access} {reports : List (Report alpha)}

/-- A call that returned without an error of its own has the result that the rules
name. -/
theorem Ruling.finish_eq {outcome : Outcome (List (policy.Element alpha))}
    (ruling : Ruling policy subjects access reports (.ok ()) outcome) :
    policy.finish subjects access
      (Collector.ofReports subjects.length reports) = outcome := by
  cases ruling with
  | breached fault first =>
      rw [policy.finish_of_firstBreach first]
      obtain ⟨before, report, after, _, _, broken⟩ := first
      unfold breach? at broken
      split at broken
      · cases broken
        rfl
      · split at broken
        · cases broken
          rfl
        · cases broken
  | elementFailed index error dutiful strict first =>
      subst strict
      exact ErrorPolicy.finish_of_firstError dutiful first
  | unreported index dutiful errorFree inside missing smallest =>
      exact policy.finish_of_missing dutiful errorFree inside missing smallest
  | complete elements dutiful errorFree sameLength reported =>
      exact policy.finish_of_reported dutiful errorFree sameLength reported

/-- A list can be put together from one element for each index. -/
theorem exists_list_of_forall_lt {beta : Type} {holds : Nat → beta → Prop}
    (size : Nat) (each : ∀ index < size, ∃ element, holds index element) :
    ∃ elements : List beta, elements.length = size ∧
      ∀ index element, elements[index]? = some element → holds index element := by
  induction size with
  | zero =>
      exact ⟨[], rfl, by simp⟩
  | succ size inductionHypothesis =>
      obtain ⟨elements, sameLength, held⟩ :=
        inductionHypothesis fun index below => each index (Nat.lt_succ_of_lt below)
      obtain ⟨last, lastHolds⟩ := each size (Nat.lt_succ_self size)
      refine ⟨elements ++ [last], by simp [sameLength], ?_⟩
      intro index element found
      rcases Nat.lt_trichotomy index size with below | same | above
      · rw [List.getElem?_append_left (sameLength.symm ▸ below)] at found
        exact held index element found
      · rw [same, ← sameLength, List.getElem?_concat_length] at found
        rw [same, ← Option.some.inj found]
        exact lastHolds
      · rw [List.getElem?_eq_none (by simp [sameLength]; omega)] at found
        cases found

/-- An element of the result for an index that was reported. -/
theorem ErrorPolicy.exists_element (policy : ErrorPolicy)
    (errorFree : policy = .exception → ErrorFree reports) {index : Nat}
    (heard : index ∈ reports.map Report.index) :
    ∃ element : policy.Element alpha,
      ⟨index, policy.outcomeOf element⟩ ∈ reports := by
  obtain ⟨report, member, rfl⟩ := List.mem_map.1 heard
  cases policy with
  | exception =>
      obtain ⟨value, held⟩ := errorFree rfl report member
      refine ⟨value, ?_⟩
      change ⟨report.index, .ok value⟩ ∈ reports
      rw [← held]
      exact member
  | variant =>
      exact ⟨report.outcome, member⟩

/-- The rules name a result for all reports. -/
theorem exists_ruling (policy : ErrorPolicy) (subjects : List EntityReference)
    (access : Option Access) (reports : List (Report alpha)) :
    ∃ outcome, Ruling policy subjects access reports (.ok ()) outcome := by
  rcases Collector.dutiful_or_firstBreach subjects.length reports with
    dutiful | ⟨fault, first⟩
  swap
  · exact ⟨_, .breached fault first⟩
  by_cases errorFree : policy = .exception → ErrorFree reports
  · by_cases all : ∀ index < subjects.length, index ∈ reports.map Report.index
    · obtain ⟨elements, sameLength, reported⟩ :=
        exists_list_of_forall_lt subjects.length fun index below =>
          policy.exists_element errorFree (all index below)
      exact ⟨_, .complete elements dutiful errorFree sameLength reported⟩
    · simp only [not_forall] at all
      -- The smallest index that contradicts `all` is the smallest that is missing.
      obtain ⟨inside, missing⟩ := Nat.find_spec all
      refine ⟨_, .unreported (Nat.find all) dutiful errorFree inside missing ?_⟩
      intro smaller below
      by_contra unheard
      exact Nat.find_min all below ⟨Nat.lt_trans below inside, unheard⟩
  · simp only [Classical.not_imp] at errorFree
    obtain ⟨strict, someError⟩ := errorFree
    rcases errorFree_or_firstError reports with none | ⟨index, error, first⟩
    · exact absurd none someError
    · exact ⟨_, .elementFailed index error dutiful strict first⟩

end Ruling

/-- The result of a collected call is the one that the rules name: for every batch,
every sequence of reports that its manager makes and whatever the call returns. -/
theorem collect_answer_eq_iff (policy : ErrorPolicy)
    (subjects : List EntityReference) (access : Option Access)
    (batch : BatchRequest tau alpha) (state : tau)
    (outcome : Outcome (List (policy.Element alpha))) :
    (Manager.collect policy subjects access batch state).answer = outcome ↔
      Ruling policy subjects access (policy.hears (batch state)).1
        (policy.hears (batch state)).2.answer outcome := by
  cases returned : (policy.hears (batch state)).2.answer with
  | error error =>
      rw [collect_answer_of_error policy subjects access batch state returned]
      constructor
      · rintro rfl
        exact .callFailed error
      · intro ruling
        cases ruling
        rfl
  | ok done =>
      rw [collect_answer_of_receives subjects access ⟨rfl, returned⟩]
      constructor
      · rintro rfl
        obtain ⟨other, ruling⟩ :=
          exists_ruling policy subjects access (policy.hears (batch state)).1
        rw [ruling.finish_eq]
        exact ruling
      · exact Ruling.finish_eq

-- The error counts, although nothing was reported of the element before it.
example :
    (Manager.collect .exception [⟨"a"⟩, ⟨"b"⟩] (some .read)
        (.reporting [⟨1, .error ⟨.authError, "no"⟩⟩] : BatchRequest Unit Nat)
        ()).answer =
      .error (.batchElement 1 ⟨.authError, "no"⟩
        "authError: no [index=1] [access=read] [entity=b]") := by
  rfl

end AssetExchange
