import AssetExchange.Proofs.Batch.Ruling
import Mathlib.Data.Set.List

/-!
# The books of a collector

A call of a collector fills an empty slot or is rejected, and a rejected call changes nothing
but the breach (`Takes`).  What was entered once is never changed (`Keeps`), and the three
fields of a collector agree with each other and with the number of calls (`Consistent`).
Both are kept by every call, whatever a manager reports.

Hence the first error that is remembered is always found in its slot, and where none is
remembered every outcome is a value (`BooksLaw`).
-/

namespace AssetExchange
namespace Collector

variable {alpha : Type} {collector earlier later : Collector alpha} {calls index : Nat}

/-! ## One call -/

/-- What a call leaves of a collector. -/
inductive Takes (collector : Collector alpha) : Report alpha → Collector alpha → Prop
  | value {index : Nat} {value : alpha} (empty : collector.slots[index]? = some none) :
      Takes collector ⟨index, .ok value⟩
        { collector with slots := collector.slots.set index (some (.ok value)) }
  /-- An error fills an empty slot; it is remembered unless there was one before. -/
  | error {index : Nat} {error : BatchElementError}
      (empty : collector.slots[index]? = some none) :
      Takes collector ⟨index, .error error⟩
        { collector with
          slots := collector.slots.set index (some (.error error))
          firstError := collector.firstError.or (some index) }
  | rejected (report : Report alpha) (fault : Fault) :
      Takes collector report
        { collector with violation := collector.violation.or (some fault) }

theorem takes_record (collector : Collector alpha) (report : Report alpha) :
    Takes collector report (collector.record report.index report.outcome) := by
  obtain ⟨index, outcome⟩ := report
  unfold record breach
  cases slot : collector.slots[index]? with
  | none =>
      exact .rejected _ _
  | some content =>
      cases content with
      | some held =>
          exact .rejected _ _
      | none =>
          cases outcome with
          | ok value =>
              exact .value slot
          | error error =>
              exact .error slot

theorem ofReports_concat (size : Nat) (reports : List (Report alpha)) (report : Report alpha) :
    ofReports size (reports ++ [report]) =
      (ofReports size reports).record report.index report.outcome := by
  simp only [ofReports, List.foldl_append, List.foldl_cons, List.foldl_nil]

/-- The collector of a batch of the given size after it heard reports, asking to stop or
not. -/
def afterHearing (stopOnError : Bool) (size : Nat) (reports : List (Report alpha)) :
    Collector alpha :=
  reports.foldl (listener stopOnError).hear (ofSize size)

/-- Whether it asks to stop makes no difference to what it takes down. -/
theorem afterHearing_eq (stopOnError : Bool) (size : Nat) (reports : List (Report alpha)) :
    afterHearing stopOnError size reports = ofReports size reports := by
  have heardAs : (listener stopOnError).hear =
      fun (collector : Collector alpha) (report : Report alpha) =>
        collector.record report.index report.outcome := by
    funext collector report
    exact hear_listener stopOnError collector report
  rw [afterHearing, heardAs, ofReports]

/-! ## What is never changed -/

/-- A later collector has all that an earlier one has: the same number of slots, every slot
that was filled, and the first error and the breach if they were set. -/
structure Keeps (earlier later : Collector alpha) : Prop where
  length_slots : later.slots.length = earlier.slots.length
  slot : ∀ (index : Nat) outcome, earlier.slots[index]? = some (some outcome) →
    later.slots[index]? = some (some outcome)
  firstError : ∀ index, earlier.firstError = some index → later.firstError = some index
  violation : ∀ fault, earlier.violation = some fault → later.violation = some fault

theorem Keeps.refl (collector : Collector alpha) : Keeps collector collector :=
  ⟨rfl, fun _ _ held => held, fun _ set => set, fun _ set => set⟩

theorem Keeps.trans {last : Collector alpha} (first : Keeps earlier later)
    (second : Keeps later last) : Keeps earlier last := by
  constructor
  case length_slots =>
    exact second.length_slots.trans first.length_slots
  case slot =>
    intro index outcome held
    exact second.slot index outcome (first.slot index outcome held)
  case firstError =>
    intro index set
    exact second.firstError index (first.firstError index set)
  case violation =>
    intro fault set
    exact second.violation fault (first.violation fault set)

theorem getElem?_set_of_filled {slots : List (Option (ElementOutcome alpha))}
    {outcome held : ElementOutcome alpha} {other : Nat} (empty : slots[index]? = some none)
    (filled : slots[other]? = some (some held)) :
    (slots.set index (some outcome))[other]? = some (some held) := by
  have different : index ≠ other := by
    rintro rfl
    rw [empty] at filled
    cases filled
  rwa [List.getElem?_set_ne different]

theorem Takes.keeps {report : Report alpha} (takes : Takes collector report later) :
    Keeps collector later := by
  cases takes with
  | value empty =>
      refine ⟨List.length_set, ?_, fun _ set => set, fun _ set => set⟩
      intro other held filled
      exact getElem?_set_of_filled empty filled
  | error empty =>
      refine ⟨List.length_set, ?_, ?_, fun _ set => set⟩
      · intro other held filled
        exact getElem?_set_of_filled empty filled
      · intro first set
        simp [set]
  | rejected _ fault =>
      refine ⟨rfl, fun _ _ held => held, fun _ set => set, ?_⟩
      intro first set
      simp [set]

theorem keeps_ofReports (size : Nat) (before after : List (Report alpha)) :
    Keeps (ofReports size before) (ofReports size (before ++ after)) := by
  induction after using List.reverseRecOn with
  | nil =>
      rw [List.append_nil]
      exact .refl _
  | append_singleton after report inductionHypothesis =>
      have step := (takes_record (ofReports size (before ++ after)) report).keeps
      rw [← List.append_assoc, ofReports_concat]
      exact inductionHypothesis.trans step

/-! ## How the fields agree -/

/-- A slot holds this error. -/
def HoldsError (collector : Collector alpha) (index : Nat) (error : BatchElementError) : Prop :=
  collector.slots[index]? = some (some (.error error))

def filled (collector : Collector alpha) : Nat :=
  collector.slots.countP Option.isSome

/-- The fields of a collector agree with each other after a number of calls. -/
structure Consistent (calls : Nat) (collector : Collector alpha) : Prop where
  noError : collector.firstError = none → ∀ index error, ¬collector.HoldsError index error
  firstError : ∀ index, collector.firstError = some index →
    ∃ error, collector.HoldsError index error
  filled_le : collector.filled ≤ calls
  violation_iff : collector.violation = none ↔ collector.filled = calls

theorem Consistent.firstError_eq_none_iff (consistent : Consistent calls collector) :
    collector.firstError = none ↔ ∀ index error, ¬collector.HoldsError index error := by
  constructor
  · exact consistent.noError
  · intro errorFree
    cases set : collector.firstError with
    | none =>
        rfl
    | some index =>
        obtain ⟨error, holds⟩ := consistent.firstError index set
        exact absurd holds (errorFree index error)

theorem consistent_ofSize (size : Nat) : Consistent 0 (ofSize size : Collector alpha) := by
  have empty : (ofSize size : Collector alpha).filled = 0 := by
    simp [filled, ofSize, List.countP_replicate]
  constructor
  case noError =>
    intro _ index error holds
    simp [HoldsError, ofSize, List.getElem?_replicate] at holds
  case firstError =>
    intro index set
    cases set
  case filled_le =>
    exact Nat.le_of_eq empty
  case violation_iff =>
    exact ⟨fun _ => empty, fun _ => rfl⟩

/-- Filling an empty slot makes one filled slot more. -/
theorem countP_set_of_empty {slots : List (Option (ElementOutcome alpha))}
    (empty : slots[index]? = some none) (outcome : ElementOutcome alpha) :
    (slots.set index (some outcome)).countP Option.isSome =
      slots.countP Option.isSome + 1 := by
  obtain ⟨inside, held⟩ := List.getElem?_eq_some_iff.1 empty
  rw [List.countP_set inside, held]
  rfl

/-- The outcomes in the slots after an empty one was filled. -/
theorem getElem?_set_iff_of_empty {slots : List (Option (ElementOutcome alpha))}
    (empty : slots[index]? = some none) (outcome : ElementOutcome alpha) {other : Nat}
    {held : ElementOutcome alpha} :
    (slots.set index (some outcome))[other]? = some (some held) ↔
      (index = other ∧ outcome = held) ∨ slots[other]? = some (some held) := by
  by_cases same : index = other
  · subst same
    obtain ⟨inside, _⟩ := List.getElem?_eq_some_iff.1 empty
    simp [List.getElem?_set_self inside, empty]
  · simp [List.getElem?_set_ne same, same]

/-- One more call keeps the fields in agreement. -/
theorem Consistent.takes {report : Report alpha} (consistent : Consistent calls collector)
    (takes : Takes collector report later) : Consistent (calls + 1) later := by
  have bound := consistent.filled_le
  have exact_iff := consistent.violation_iff
  cases takes with
  | @value index value empty =>
      have more := countP_set_of_empty empty (.ok value)
      refine ⟨?_, ?_, ?_, ?_⟩
      · intro unset other error holds
        rcases (getElem?_set_iff_of_empty empty _).1 holds with ⟨_, impossible⟩ | before
        · cases impossible
        · exact consistent.noError unset other error before
      · intro first set
        obtain ⟨error, before⟩ := consistent.firstError first set
        exact ⟨error, (getElem?_set_iff_of_empty empty _).2 (Or.inr before)⟩
      · exact Nat.le_trans (Nat.le_of_eq more) (Nat.succ_le_succ bound)
      · exact exact_iff.trans (by rw [filled, filled, more, Nat.succ_inj])
  | @error index error empty =>
      have more := countP_set_of_empty empty (.error error)
      refine ⟨?_, ?_, ?_, ?_⟩
      · intro unset
        simp at unset
      · intro first set
        cases known : collector.firstError with
        | none =>
            have same : index = first := by
              simpa [known] using set
            exact ⟨error, (getElem?_set_iff_of_empty empty _).2 (Or.inl ⟨same, rfl⟩)⟩
        | some earlier =>
            have same : earlier = first := by
              simpa [known] using set
            obtain ⟨other, before⟩ := consistent.firstError first (same ▸ known)
            exact ⟨other, (getElem?_set_iff_of_empty empty _).2 (Or.inr before)⟩
      · exact Nat.le_trans (Nat.le_of_eq more) (Nat.succ_le_succ bound)
      · exact exact_iff.trans (by rw [filled, filled, more, Nat.succ_inj])
  | rejected _ fault =>
      have tooFew : collector.filled < calls + 1 := Nat.lt_succ_of_le bound
      refine ⟨consistent.noError, consistent.firstError, Nat.le_of_lt tooFew, ?_⟩
      constructor
      · intro unset
        simp at unset
      · intro enough
        exact absurd enough (Nat.ne_of_lt tooFew)

theorem consistent_ofReports (size : Nat) (reports : List (Report alpha)) :
    Consistent reports.length (ofReports size reports) := by
  induction reports using List.reverseRecOn with
  | nil =>
      exact consistent_ofSize size
  | append_singleton reports report inductionHypothesis =>
      rw [ofReports_concat, List.length_append, List.length_singleton]
      exact inductionHypothesis.takes (takes_record _ report)

/-! ## The first error -/

/-- The error that is remembered was entered by a call before which no error was
remembered. -/
theorem exists_call_of_firstError {size : Nat} {reports : List (Report alpha)}
    (set : (ofReports size reports).firstError = some index) :
    ∃ before error after, reports = before ++ ⟨index, .error error⟩ :: after ∧
      (ofReports size reports).HoldsError index error ∧
      (ofReports size before).slots[index]? = some none ∧
      (ofReports size before).firstError = none := by
  induction reports using List.reverseRecOn with
  | nil =>
      cases set
  | append_singleton reports report inductionHypothesis =>
      cases known : (ofReports size reports).firstError with
      | some first =>
          have keeps := keeps_ofReports size reports [report]
          have kept := keeps.firstError first known
          rw [set] at kept
          obtain ⟨before, error, after, split, holds, empty, unset⟩ :=
            inductionHypothesis (known.trans kept.symm)
          exact ⟨before, error, after ++ [report], by simp [split],
            keeps.slot index _ holds, empty, unset⟩
      | none =>
          have takes := takes_record (ofReports size reports) report
          rw [ofReports_concat] at set ⊢
          generalize (ofReports size reports).record report.index report.outcome = later
            at set takes ⊢
          cases takes with
          | value empty =>
              rw [known] at set
              cases set
          | @error place error empty =>
              have same : place = index := by
                simpa [known] using set
              subst same
              have holds := (getElem?_set_iff_of_empty empty (.error error)).2
                (Or.inl ⟨rfl, rfl⟩)
              exact ⟨reports, error, [], rfl, holds, empty, known⟩
          | rejected _ fault =>
              rw [known] at set
              cases set

/-! ## What is read off in the end -/

/-- Outcomes are read off only if every slot is filled. -/
theorem slots_of_filledFrom {slots : List (Option (ElementOutcome alpha))} {start : Nat}
    {outcomes : List (ElementOutcome alpha)} (read : filledFrom start slots = .ok outcomes) :
    slots = outcomes.map some := by
  induction slots generalizing start outcomes with
  | nil =>
      cases read
      rfl
  | cons slot rest inductionHypothesis =>
      cases slot with
      | none =>
          cases read
      | some outcome =>
          rw [filledFrom] at read
          cases later : filledFrom (start + 1) rest with
          | error fault =>
              rw [later] at read
              cases read
          | ok others =>
              rw [later] at read
              cases read
              rw [inductionHypothesis later, List.map_cons]

/-- Outcomes without an error among them are values. -/
theorem exists_values_of_outcomes {outcomes : List (ElementOutcome alpha)}
    (errorFree : ∀ index error, ¬collector.HoldsError index error)
    (read : collector.outcomes = .ok outcomes) :
    ∃ values : List alpha, outcomes = values.map .ok := by
  have slots : collector.slots = outcomes.map some := slots_of_filledFrom read
  have each : ∀ outcome ∈ outcomes, ∃ value, Except.ok value = outcome := by
    intro outcome member
    cases outcome with
    | ok value =>
        exact ⟨value, rfl⟩
    | error error =>
        obtain ⟨index, found⟩ := List.getElem?_of_mem member
        have holds : collector.HoldsError index error := by
          rw [HoldsError, slots, List.getElem?_map, found, Option.map_some]
        exact absurd holds (errorFree index error)
  have inRange : outcomes ∈ Set.range (List.map Except.ok) := by
    rw [Set.range_list_map]
    exact each
  obtain ⟨values, same⟩ := inRange
  exact ⟨values, same.symm⟩

/-- The error that is remembered is found in its slot. -/
theorem firstReportedError?_of_firstError {error : BatchElementError}
    (set : collector.firstError = some index) (holds : collector.HoldsError index error) :
    collector.firstReportedError? = some (index, error) := by
  rw [HoldsError] at holds
  simp only [firstReportedError?, set, holds]

/-- No error is found only if no slot holds one. -/
theorem Consistent.firstReportedError?_eq_none_iff (consistent : Consistent calls collector) :
    collector.firstReportedError? = none ↔
      ∀ index error, ¬collector.HoldsError index error := by
  rw [← consistent.firstError_eq_none_iff]
  cases set : collector.firstError with
  | none =>
      simp only [firstReportedError?, set]
  | some index =>
      obtain ⟨error, holds⟩ := consistent.firstError index set
      simp only [firstReportedError?_of_firstError set holds, reduceCtorEq]

/-! ## The law -/

/-- What a collector has in its books after it heard reports, any indices and any outcomes
among them. -/
structure BooksLaw (stopOnError : Bool) (size : Nat) (reports : List (Report alpha))
    (collector : Collector alpha) : Prop where
  /-- There is a slot for every element. -/
  length_slots : collector.slots.length = size
  /-- Nothing was changed after it had been entered. -/
  keeps : ∀ before after, reports = before ++ after →
    Keeps (afterHearing stopOnError size before) collector
  firstError_eq_none_iff :
    collector.firstError = none ↔ ∀ index error, ¬collector.HoldsError index error
  /-- The error that is remembered is in its slot.  It is the earliest of those that were
  entered: before its report its slot was empty and no slot held an error. -/
  firstError : ∀ index, collector.firstError = some index →
    ∃ before error after, reports = before ++ ⟨index, .error error⟩ :: after ∧
      collector.HoldsError index error ∧
      (afterHearing stopOnError size before).slots[index]? = some none ∧
      ∀ other otherError, ¬(afterHearing stopOnError size before).HoldsError other otherError
  /-- A breach shows in the number of the slots that were filled, and only there. -/
  violation_iff : collector.violation ≠ none ↔ reports.length ≠ collector.filled
  /-- Where an error is remembered it is found. -/
  firstReportedError?_eq_some : ∀ index, collector.firstError = some index →
    ∃ error, collector.firstReportedError? = some (index, error)
  firstReportedError?_eq_none_iff :
    collector.firstReportedError? = none ↔
      ∀ index error, ¬collector.HoldsError index error
  /-- Where none is found, all outcomes that can be read off are values, so that none of them
  has to be turned into an error of the call. -/
  values : ∀ outcomes, collector.firstReportedError? = none →
    collector.outcomes = .ok outcomes →
      ∃ values : List alpha, outcomes = values.map .ok ∧
        ∀ subjects access, ErrorPolicy.valuesFrom subjects access 0 outcomes = .ok values

/-- The books of a collector are in order after every sequence of reports, whether or not it
asks to stop at errors. -/
theorem books_in_order (stopOnError : Bool) (size : Nat) (reports : List (Report alpha)) :
    BooksLaw stopOnError size reports (afterHearing stopOnError size reports) := by
  have consistent := consistent_ofReports size reports
  rw [afterHearing_eq]
  constructor
  case length_slots =>
    exact (reflects_ofReports size reports).length_slots
  case keeps =>
    rintro before after rfl
    rw [afterHearing_eq]
    exact keeps_ofReports size before after
  case firstError_eq_none_iff =>
    exact consistent.firstError_eq_none_iff
  case firstError =>
    intro index set
    obtain ⟨before, error, after, split, holds, empty, unset⟩ := exists_call_of_firstError set
    refine ⟨before, error, after, split, holds, ?_⟩
    rw [afterHearing_eq]
    exact ⟨empty, (consistent_ofReports size before).noError unset⟩
  case violation_iff =>
    rw [ne_eq, consistent.violation_iff]
    exact not_congr eq_comm
  case firstReportedError?_eq_some =>
    intro index set
    obtain ⟨error, holds⟩ := consistent.firstError index set
    exact ⟨error, firstReportedError?_of_firstError set holds⟩
  case firstReportedError?_eq_none_iff =>
    exact consistent.firstReportedError?_eq_none_iff
  case values =>
    intro outcomes unfound read
    have errorFree := consistent.firstReportedError?_eq_none_iff.1 unfound
    obtain ⟨values, rfl⟩ := exists_values_of_outcomes errorFree read
    refine ⟨values, rfl, ?_⟩
    intro subjects access
    exact ErrorPolicy.valuesFrom_map_ok 0 values

end Collector
end AssetExchange
