import AssetExchange.Batch.Run
import Mathlib.Data.List.Induction
import Mathlib.Data.List.Nodup

/-!
# The duty of a manager

A manager has to report every element of a batch, each of them once.  This module says
what a list of reports shows of that duty:

* `Dutiful`: no report lies beyond the end of the batch or repeats an earlier one;
* `FirstBreach`: the first report that does;
* `FirstError`: the first report of an error;
* `accepted`: the reports that say something new about an element of the batch.

Only the order of the reports decides which of them is first.  Being dutiful, and
being free of errors, does not depend on the order.
-/

namespace AssetExchange

variable {alpha : Type}

/-! ## Vocabulary -/

/-- Every report lies within the batch, and no element is reported twice. -/
structure Dutiful (size : Nat) (reports : List (Report alpha)) : Prop where
  within : ∀ report ∈ reports, report.index < size
  nodup : (reports.map Report.index).Nodup

/-- How a report breaks the duty of a manager that made other reports before. -/
def breach?
    (size : Nat) (before : List (Report alpha)) (report : Report alpha) :
    Option Fault :=
  if size ≤ report.index then
    some (.indexOutOfRange report.index size)
  else if report.index ∈ before.map Report.index then
    some (.repeatedResult report.index)
  else
    none

/-- The first report that breaks the duty breaks it in this way. -/
def FirstBreach
    (size : Nat) (reports : List (Report alpha)) (fault : Fault) : Prop :=
  ∃ before report after,
    reports = before ++ report :: after ∧
      Dutiful size before ∧ breach? size before report = some fault

def ErrorFree (reports : List (Report alpha)) : Prop :=
  ∀ report ∈ reports, ∃ value, report.outcome = .ok value

/-- The first error that is reported, with its index. -/
def FirstError
    (reports : List (Report alpha)) (index : Nat)
    (error : BatchElementError) : Prop :=
  ∃ before after,
    reports = before ++ ⟨index, .error error⟩ :: after ∧ ErrorFree before

/-- The reports that say something new about an element of the batch: the first one
of each index within it. -/
def accepted (size : Nat) (reports : List (Report alpha)) :
    List (Report alpha) :=
  reports.foldl
    (fun kept report =>
      if (breach? size kept report).isNone then kept ++ [report] else kept)
    []

/-! ## Places in a list -/

/-- Of two places in a list, one comes first unless they are the same. -/
theorem split_trichotomy {beta : Type}
    {before after other rest : List beta} {first second : beta}
    (same : before ++ first :: after = other ++ second :: rest) :
    (before = other ∧ first = second) ∨
      (∃ middle, other = before ++ first :: middle) ∨
        (∃ middle, before = other ++ second :: middle) := by
  rcases List.append_eq_append_iff.1 same with
    ⟨extra, longer, tails⟩ | ⟨extra, longer, tails⟩
  · cases extra with
    | nil =>
        simp only [List.nil_append, List.cons.injEq] at tails
        exact Or.inl ⟨by simpa using longer.symm, tails.1⟩
    | cons head middle =>
        simp only [List.cons_append, List.cons.injEq] at tails
        exact Or.inr (Or.inl ⟨middle, by rw [longer, tails.1]⟩)
  · cases extra with
    | nil =>
        simp only [List.nil_append, List.cons.injEq] at tails
        exact Or.inl ⟨by simpa using longer, tails.1.symm⟩
    | cons head middle =>
        simp only [List.cons_append, List.cons.injEq] at tails
        exact Or.inr (Or.inr ⟨middle, by rw [longer, tails.1]⟩)

/-! ## Breaches -/

theorem breach?_eq_none_iff
    (size : Nat) (before : List (Report alpha)) (report : Report alpha) :
    breach? size before report = none ↔
      report.index < size ∧ report.index ∉ before.map Report.index := by
  unfold breach?
  by_cases beyond : size ≤ report.index
  · simp [beyond, Nat.not_lt.2 beyond]
  · by_cases repeated : report.index ∈ before.map Report.index
    · simp [beyond, repeated]
    · simp [beyond, repeated, Nat.lt_of_not_le beyond]

theorem dutiful_nil (size : Nat) :
    Dutiful size ([] : List (Report alpha)) :=
  ⟨by simp, List.nodup_nil⟩

theorem dutiful_concat_iff
    (size : Nat) (reports : List (Report alpha)) (report : Report alpha) :
    Dutiful size (reports ++ [report]) ↔
      Dutiful size reports ∧ breach? size reports report = none := by
  rw [breach?_eq_none_iff]
  constructor
  · intro dutiful
    have nodup := dutiful.nodup
    rw [List.map_append, List.map_singleton, List.nodup_append] at nodup
    refine ⟨⟨fun earlier member =>
      dutiful.within earlier (List.mem_append_left _ member), nodup.1⟩,
      dutiful.within report (by simp), fun repeated => ?_⟩
    exact nodup.2.2 _ repeated _ (List.mem_singleton_self _) rfl
  · rintro ⟨dutiful, inside, fresh⟩
    refine ⟨fun other member => ?_, ?_⟩
    · rcases List.mem_append.1 member with earlier | last
      · exact dutiful.within other earlier
      · rw [List.mem_singleton.1 last]
        exact inside
    · rw [List.map_append, List.map_singleton, List.nodup_append]
      refine ⟨dutiful.nodup, List.nodup_singleton _, ?_⟩
      intro index earlier other last same
      rw [List.mem_singleton.1 last] at same
      exact fresh (same ▸ earlier)

theorem Dutiful.of_append {size : Nat} {before after : List (Report alpha)}
    (dutiful : Dutiful size (before ++ after)) : Dutiful size before := by
  refine ⟨fun report member =>
    dutiful.within report (List.mem_append_left _ member), ?_⟩
  have nodup := dutiful.nodup
  rw [List.map_append] at nodup
  exact (List.nodup_append.1 nodup).1

theorem Dutiful.breach?_eq_none {size : Nat}
    {before after : List (Report alpha)} {report : Report alpha}
    (dutiful : Dutiful size (before ++ report :: after)) :
    breach? size before report = none := by
  rw [List.append_cons] at dutiful
  exact ((dutiful_concat_iff size before report).1 dutiful.of_append).2

theorem FirstBreach.not_dutiful {size : Nat}
    {reports : List (Report alpha)} {fault : Fault}
    (first : FirstBreach size reports fault) : ¬ Dutiful size reports := by
  obtain ⟨before, report, after, rfl, _, broken⟩ := first
  intro dutiful
  rw [dutiful.breach?_eq_none] at broken
  cases broken

theorem FirstBreach.unique {size : Nat} {reports : List (Report alpha)}
    {fault other : Fault}
    (first : FirstBreach size reports fault)
    (second : FirstBreach size reports other) : fault = other := by
  obtain ⟨before, report, after, rfl, dutiful, broken⟩ := first
  obtain ⟨before', report', after', same, dutiful', broken'⟩ := second
  rcases split_trichotomy same with
    ⟨rfl, rfl⟩ | ⟨middle, rfl⟩ | ⟨middle, rfl⟩
  · rw [broken] at broken'
    exact Option.some.inj broken'
  · rw [dutiful'.breach?_eq_none] at broken
    cases broken
  · rw [dutiful.breach?_eq_none] at broken'
    cases broken'

theorem FirstBreach.append {size : Nat} {reports : List (Report alpha)}
    {fault : Fault} (first : FirstBreach size reports fault)
    (more : List (Report alpha)) :
    FirstBreach size (reports ++ more) fault := by
  obtain ⟨before, report, after, rfl, dutiful, broken⟩ := first
  exact ⟨before, report, after ++ more, by simp, dutiful, broken⟩

/-- A dutiful manager says one thing about an element. -/
theorem Dutiful.eq_of_index_eq {size : Nat} {reports : List (Report alpha)}
    (dutiful : Dutiful size reports) {first second : Report alpha}
    (firstMember : first ∈ reports) (secondMember : second ∈ reports)
    (same : first.index = second.index) : first = second :=
  List.inj_on_of_nodup_map dutiful.nodup firstMember secondMember same

theorem Dutiful.perm {size : Nat} {reports others : List (Report alpha)}
    (dutiful : Dutiful size reports) (permuted : reports.Perm others) :
    Dutiful size others :=
  ⟨fun report member => dutiful.within report (permuted.mem_iff.2 member),
    (permuted.map Report.index).nodup_iff.1 dutiful.nodup⟩

/-! ## Errors -/

theorem errorFree_concat_iff
    (reports : List (Report alpha)) (report : Report alpha) :
    ErrorFree (reports ++ [report]) ↔
      ErrorFree reports ∧ ∃ value, report.outcome = .ok value := by
  constructor
  · intro errorFree
    exact ⟨fun earlier member =>
      errorFree earlier (List.mem_append_left _ member),
      errorFree report (by simp)⟩
  · rintro ⟨errorFree, last⟩ other member
    rcases List.mem_append.1 member with earlier | here
    · exact errorFree other earlier
    · rw [List.mem_singleton.1 here]
      exact last

theorem ErrorFree.perm {reports others : List (Report alpha)}
    (errorFree : ErrorFree reports) (permuted : reports.Perm others) :
    ErrorFree others :=
  fun report member => errorFree report (permuted.mem_iff.2 member)

theorem FirstError.mem {reports : List (Report alpha)} {index : Nat}
    {error : BatchElementError} (first : FirstError reports index error) :
    ⟨index, .error error⟩ ∈ reports := by
  obtain ⟨before, after, rfl, _⟩ := first
  simp

theorem FirstError.not_errorFree {reports : List (Report alpha)} {index : Nat}
    {error : BatchElementError} (first : FirstError reports index error) :
    ¬ ErrorFree reports := by
  intro errorFree
  obtain ⟨value, impossible⟩ := errorFree _ first.mem
  cases impossible

theorem FirstError.append {reports : List (Report alpha)} {index : Nat}
    {error : BatchElementError} (first : FirstError reports index error)
    (more : List (Report alpha)) : FirstError (reports ++ more) index error := by
  obtain ⟨before, after, rfl, errorFree⟩ := first
  exact ⟨before, after ++ more, by simp, errorFree⟩

theorem errorFree_or_firstError (reports : List (Report alpha)) :
    ErrorFree reports ∨ ∃ index error, FirstError reports index error := by
  induction reports using List.reverseRecOn with
  | nil =>
      exact Or.inl (by simp [ErrorFree])
  | append_singleton reports report inductionHypothesis =>
      rcases inductionHypothesis with errorFree | ⟨index, error, first⟩
      · obtain ⟨index, outcome⟩ := report
        cases outcome with
        | ok value =>
            exact Or.inl ((errorFree_concat_iff _ _).2 ⟨errorFree, value, rfl⟩)
        | error error =>
            exact Or.inr ⟨index, error, reports, [], rfl, errorFree⟩
      · exact Or.inr ⟨index, error, first.append [report]⟩

theorem FirstError.unique {reports : List (Report alpha)} {index other : Nat}
    {error otherError : BatchElementError}
    (first : FirstError reports index error)
    (second : FirstError reports other otherError) :
    index = other ∧ error = otherError := by
  obtain ⟨before, after, rfl, errorFree⟩ := first
  obtain ⟨before', after', same, errorFree'⟩ := second
  rcases split_trichotomy same with
    ⟨_, sameReport⟩ | ⟨middle, rfl⟩ | ⟨middle, rfl⟩
  · simp only [Report.mk.injEq, Except.error.injEq] at sameReport
    exact sameReport
  · exact absurd errorFree' (FirstError.not_errorFree ⟨before, middle, rfl, errorFree⟩)
  · exact absurd errorFree (FirstError.not_errorFree ⟨before', middle, rfl, errorFree'⟩)

/-! ## Accepted reports -/

/-- The indices of the accepted reports are those within the batch that were
reported. -/
theorem mem_map_index_accepted_iff
    (size : Nat) (reports : List (Report alpha)) (index : Nat) :
    index ∈ (accepted size reports).map Report.index ↔
      index < size ∧ index ∈ reports.map Report.index := by
  -- Reports are taken down from the left, so the induction is on the last of them.
  induction reports using List.reverseRecOn generalizing index with
  | nil =>
      simp [accepted]
  | append_singleton reports report inductionHypothesis =>
      have step : accepted size (reports ++ [report]) =
          if (breach? size (accepted size reports) report).isNone then
            accepted size reports ++ [report]
          else accepted size reports := by
        simp [accepted, List.foldl_append]
      rw [step]
      cases broken : breach? size (accepted size reports) report with
      | none =>
          have fresh := (breach?_eq_none_iff _ _ _).1 broken
          simp only [Option.isNone_none, if_true, List.map_append,
            List.map_singleton, List.mem_append, List.mem_singleton,
            inductionHypothesis]
          constructor
          · rintro (⟨inside, earlier⟩ | rfl)
            · exact ⟨inside, Or.inl earlier⟩
            · exact ⟨fresh.1, Or.inr rfl⟩
          · rintro ⟨inside, earlier | last⟩
            · exact Or.inl ⟨inside, earlier⟩
            · exact Or.inr last
      | some fault =>
          simp only [Option.isNone_some, Bool.false_eq_true, if_false,
            List.map_append, List.map_singleton, List.mem_append,
            List.mem_singleton, inductionHypothesis]
          refine ⟨fun ⟨inside, earlier⟩ => ⟨inside, Or.inl earlier⟩, ?_⟩
          rintro ⟨inside, earlier | rfl⟩
          · exact ⟨inside, earlier⟩
          · by_contra fresh
            have unbroken :=
              (breach?_eq_none_iff size (accepted size reports) report).2
                ⟨inside, fun known => fresh ((inductionHypothesis _).1 known)⟩
            rw [broken] at unbroken
            cases unbroken

/-- The reports that were not accepted make no difference to a breach. -/
theorem breach?_accepted
    (size : Nat) (reports : List (Report alpha)) (report : Report alpha) :
    breach? size (accepted size reports) report = breach? size reports report := by
  unfold breach?
  by_cases beyond : size ≤ report.index
  · simp [beyond]
  · simp [beyond, mem_map_index_accepted_iff, Nat.lt_of_not_le beyond]

theorem accepted_concat
    (size : Nat) (reports : List (Report alpha)) (report : Report alpha) :
    accepted size (reports ++ [report]) =
      if (breach? size reports report).isNone then
        accepted size reports ++ [report]
      else accepted size reports := by
  rw [← breach?_accepted]
  simp [accepted, List.foldl_append]

/-- Everything that a dutiful manager reports is accepted. -/
theorem Dutiful.accepted_eq {size : Nat} {reports : List (Report alpha)}
    (dutiful : Dutiful size reports) : accepted size reports = reports := by
  induction reports using List.reverseRecOn with
  | nil =>
      rfl
  | append_singleton reports report inductionHypothesis =>
      obtain ⟨earlier, unbroken⟩ := (dutiful_concat_iff _ _ _).1 dutiful
      rw [accepted_concat, unbroken, inductionHypothesis earlier]
      rfl

end AssetExchange
