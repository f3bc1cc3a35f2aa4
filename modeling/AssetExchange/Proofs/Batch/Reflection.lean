import AssetExchange.Batch.Collector
import AssetExchange.Proofs.Batch.Duty

/-!
# Collectors reflect what they heard

After any reports whatsoever a collector holds exactly the accepted ones in its slots,
the first error among those, and the first breach of the manager's duty
(`reflects_ofReports`).  One report keeps this relation (`Reflects.record`).

With the relation at hand the questions put to a collector in the end are answered
from the reports alone: `firstReportedError?` and `outcomes` for a manager that did
its duty.
-/

namespace AssetExchange.Collector

variable {alpha : Type}

/-- The collector of a batch of the given size after it took down reports. -/
def ofReports (size : Nat) (reports : List (Report alpha)) : Collector alpha :=
  reports.foldl
    (fun collector report => collector.record report.index report.outcome)
    (ofSize size)

theorem hear_listener (stopOnError : Bool) (collector : Collector alpha)
    (report : Report alpha) :
    (listener stopOnError).hear collector report =
      collector.record report.index report.outcome := by
  obtain ⟨index, outcome⟩ := report
  cases outcome <;> rfl

/-- A collector holds what the reports say. -/
structure Reflects
    (size : Nat) (reports : List (Report alpha))
    (collector : Collector alpha) : Prop where
  length_slots : collector.slots.length = size
  slot_iff : ∀ index outcome,
    collector.slots[index]? = some (some outcome) ↔
      ⟨index, outcome⟩ ∈ accepted size reports
  firstError :
    (collector.firstError = none ∧ ErrorFree (accepted size reports)) ∨
      ∃ index error, collector.firstError = some index ∧
        FirstError (accepted size reports) index error
  violation :
    (collector.violation = none ∧ Dutiful size reports) ∨
      ∃ fault, collector.violation = some fault ∧
        FirstBreach size reports fault

namespace Reflects

variable {size : Nat} {reports : List (Report alpha)}
  {collector : Collector alpha}

theorem slot_filled_iff (reflects : Reflects size reports collector)
    (index : Nat) :
    (∃ outcome, collector.slots[index]? = some (some outcome)) ↔
      index < size ∧ index ∈ reports.map Report.index := by
  rw [← mem_map_index_accepted_iff, List.mem_map]
  constructor
  · rintro ⟨outcome, held⟩
    exact ⟨⟨index, outcome⟩, (reflects.slot_iff index outcome).1 held, rfl⟩
  · rintro ⟨⟨_, outcome⟩, member, rfl⟩
    exact ⟨outcome, (reflects.slot_iff _ outcome).2 member⟩

/-- A collector finds the breach that the reports show. -/
theorem breach_eq (reflects : Reflects size reports collector)
    (report : Report alpha) :
    collector.breach report.index = breach? size reports report := by
  have filled := reflects.slot_filled_iff report.index
  unfold Collector.breach breach?
  by_cases beyond : size ≤ report.index
  · simp [beyond, reflects.length_slots]
  · have inside : report.index < size := Nat.lt_of_not_le beyond
    cases slot : collector.slots[report.index]? with
    | none =>
        have outside := List.getElem?_eq_none_iff.1 slot
        rw [reflects.length_slots] at outside
        exact absurd outside beyond
    | some content =>
        simp only [slot, inside, true_and, Option.some.injEq] at filled
        cases content with
        | none =>
            have fresh : report.index ∉ reports.map Report.index := by
              simpa using filled
            simp only [beyond, fresh, if_false]
        | some outcome =>
            have repeated := filled.1 ⟨outcome, rfl⟩
            simp only [beyond, repeated, if_false, if_true]

private theorem slot_set_iff (reflects : Reflects size reports collector)
    {report : Report alpha} (unbroken : breach? size reports report = none)
    (index : Nat) (outcome : ElementOutcome alpha) :
    (collector.slots.set report.index (some report.outcome))[index]? =
        some (some outcome) ↔
      ⟨index, outcome⟩ ∈ accepted size reports ++ [report] := by
  obtain ⟨inside, fresh⟩ := (breach?_eq_none_iff _ _ _).1 unbroken
  have unheard : ∀ other, ⟨report.index, other⟩ ∉ accepted size reports := by
    intro other member
    have heard := (mem_map_index_accepted_iff size reports report.index).1
      (List.mem_map.2 ⟨_, member, rfl⟩)
    exact fresh heard.2
  rw [List.mem_append, List.mem_singleton]
  by_cases same : report.index = index
  · subst same
    rw [List.getElem?_set_self (reflects.length_slots ▸ inside)]
    obtain ⟨index, held⟩ := report
    simp only [Option.some.injEq, Report.mk.injEq, true_and, unheard, false_or]
    exact eq_comm
  · rw [List.getElem?_set_ne same, reflects.slot_iff]
    refine ⟨Or.inl, fun member => member.resolve_right ?_⟩
    rintro rfl
    exact same rfl

private theorem firstError_accepted
    (reflects : Reflects size reports collector) (report : Report alpha) :
    ((if isError report.outcome then collector.firstError.or (some report.index)
          else collector.firstError) = none ∧
        ErrorFree (accepted size reports ++ [report])) ∨
      ∃ index error,
        (if isError report.outcome then collector.firstError.or (some report.index)
          else collector.firstError) = some index ∧
        FirstError (accepted size reports ++ [report]) index error := by
  obtain ⟨index, outcome⟩ := report
  rcases reflects.firstError with ⟨unset, errorFree⟩ | ⟨first, error, set, earliest⟩
  · cases outcome with
    | ok value =>
        refine Or.inl ⟨by simp [isError, unset], ?_⟩
        exact (errorFree_concat_iff _ _).2 ⟨errorFree, value, rfl⟩
    | error error =>
        refine Or.inr ⟨index, error, by simp [isError, unset], ?_⟩
        exact ⟨accepted size reports, [], rfl, errorFree⟩
  · refine Or.inr ⟨first, error, ?_, earliest.append _⟩
    simp [set]

/-- One more report keeps a collector in step with the reports. -/
theorem record (reflects : Reflects size reports collector)
    (report : Report alpha) :
    Reflects size (reports ++ [report])
      (collector.record report.index report.outcome) := by
  unfold Collector.record
  rw [reflects.breach_eq report]
  cases broken : breach? size reports report with
  | none =>
      have more : accepted size (reports ++ [report]) =
          accepted size reports ++ [report] := by
        rw [accepted_concat, broken]
        rfl
      refine ⟨?_, ?_, ?_, ?_⟩
      · simp [reflects.length_slots]
      · rw [more]
        exact reflects.slot_set_iff broken
      · rw [more]
        exact reflects.firstError_accepted report
      · rcases reflects.violation with ⟨unset, dutiful⟩ | ⟨fault, set, first⟩
        · exact Or.inl ⟨unset, (dutiful_concat_iff _ _ _).2 ⟨dutiful, broken⟩⟩
        · exact Or.inr ⟨fault, set, first.append _⟩
  | some fault =>
      have noMore : accepted size (reports ++ [report]) =
          accepted size reports := by
        rw [accepted_concat, broken]
        rfl
      refine ⟨reflects.length_slots, ?_, ?_, ?_⟩
      · rw [noMore]
        exact reflects.slot_iff
      · rw [noMore]
        exact reflects.firstError
      · rcases reflects.violation with ⟨unset, dutiful⟩ | ⟨earlier, set, first⟩
        · refine Or.inr ⟨fault, by simp [unset], ?_⟩
          exact ⟨reports, report, [], rfl, dutiful, broken⟩
        · exact Or.inr ⟨earlier, by simp [set], first.append _⟩

end Reflects

theorem reflects_ofSize (size : Nat) :
    Reflects size ([] : List (Report alpha)) (ofSize size) := by
  refine ⟨by simp [ofSize], fun index outcome => ?_,
    Or.inl ⟨rfl, by simp [ErrorFree, accepted]⟩,
    Or.inl ⟨rfl, dutiful_nil size⟩⟩
  simp [ofSize, accepted, List.getElem?_replicate]

/-- A collector reflects the reports that it took down. -/
theorem reflects_ofReports (size : Nat) (reports : List (Report alpha)) :
    Reflects size reports (ofReports size reports) := by
  induction reports using List.reverseRecOn with
  | nil =>
      exact reflects_ofSize size
  | append_singleton reports report inductionHypothesis =>
      have step := inductionHypothesis.record report
      simpa [ofReports, List.foldl_append] using step

/-- Reports show a breach unless the manager did its duty: a collector finds one or
the other. -/
theorem dutiful_or_firstBreach (size : Nat) (reports : List (Report alpha)) :
    Dutiful size reports ∨ ∃ fault, FirstBreach size reports fault := by
  rcases (reflects_ofReports size reports).violation with
    ⟨_, dutiful⟩ | ⟨fault, _, first⟩
  · exact Or.inl dutiful
  · exact Or.inr ⟨fault, first⟩

end AssetExchange.Collector
