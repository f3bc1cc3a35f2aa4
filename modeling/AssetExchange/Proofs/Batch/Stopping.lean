import AssetExchange.Batch.Collector
import Mathlib.Data.List.Basic

/-!
# Where a batch stops

A manager that honours the answers makes its reports in order until an error is
answered by `stop`, and that error is its last report.  `EndsAtStop` says so of the
reports that were made and the elements that were left out.  Seen from one element,
it was reported if it was `Unstopped`: no error before it was answered by `stop`
(`EndsAtStop.filter_unstopped`).
-/

namespace AssetExchange

variable {alpha beta : Type}

/-- The reports end where the answers ask for it: every error before the last report
was answered by `proceed`, and nothing was left out unless the last report is an error
that was answered by `stop`. -/
structure EndsAtStop
    (answer : List (Report alpha) → Flow) (reports : List (Report alpha))
    (leftOut : List beta) : Prop where
  proceeds : ∀ before index error after,
    reports = before ++ ⟨index, .error error⟩ :: after → after ≠ [] →
      answer (before ++ [⟨index, .error error⟩]) = .proceed
  stops : leftOut ≠ [] → ∃ before index error,
    reports = before ++ [⟨index, .error error⟩] ∧ answer reports = .stop

namespace EndsAtStop

theorem nil (answer : List (Report alpha) → Flow) :
    EndsAtStop answer [] ([] : List beta) :=
  ⟨by simp, by simp⟩

/-- A batch may end with any error that was answered by `stop`. -/
theorem single_error {answer : List (Report alpha) → Flow} {index : Nat}
    {error : BatchElementError}
    (stopped : answer [⟨index, .error error⟩] = .stop) (leftOut : List beta) :
    EndsAtStop answer [⟨index, .error error⟩] leftOut := by
  refine ⟨?_, fun _ => ⟨[], index, error, rfl, stopped⟩⟩
  intro before otherIndex otherError after same notLast
  cases before with
  | nil =>
      simp only [List.nil_append, List.cons.injEq] at same
      exact absurd same.2.symm notLast
  | cons head rest =>
      simp at same

/-- One more report may go before, if it is no error that was answered by `stop`. -/
theorem cons {answer : List (Report alpha) → Flow} {report : Report alpha}
    {reports : List (Report alpha)} {leftOut : List beta}
    (goesOn : ∀ error, report.outcome = .error error →
      answer [report] = .proceed)
    (rest : EndsAtStop (fun heard => answer (report :: heard)) reports leftOut) :
    EndsAtStop answer (report :: reports) leftOut := by
  refine ⟨?_, ?_⟩
  · intro before index error after same notLast
    cases before with
    | nil =>
        simp only [List.nil_append, List.cons.injEq] at same
        have answered := goesOn error (by rw [same.1])
        rwa [same.1] at answered
    | cons head earlier =>
        simp only [List.cons_append, List.cons.injEq] at same
        have answered := rest.proceeds earlier index error after same.2 notLast
        rw [same.1] at answered
        exact answered
  · intro something
    obtain ⟨before, index, error, same, stopped⟩ := rest.stops something
    exact ⟨report :: before, index, error, by rw [same]; rfl, stopped⟩

/-- Nothing is left out if no error is answered by `stop`. -/
theorem leftOut_eq_nil {answer : List (Report alpha) → Flow}
    {reports : List (Report alpha)} {leftOut : List beta}
    (ends : EndsAtStop answer reports leftOut)
    (unstopped : ∀ before index error after,
      reports = before ++ ⟨index, .error error⟩ :: after →
        answer (before ++ [⟨index, .error error⟩]) = .proceed) :
    leftOut = [] := by
  cases leftOut with
  | nil =>
      rfl
  | cons head rest =>
      obtain ⟨before, index, error, same, stopped⟩ := ends.stops (List.cons_ne_nil _ _)
      have proceeded := unstopped before index error [] same
      rw [same, proceeded] at stopped
      cases stopped

end EndsAtStop

/-! ## Seen from one element -/

/-- No error before this place of the reports is answered by `stop`. -/
def Unstopped (answer : List (Report alpha) → Flow) (reports : List (Report alpha))
    (place : Nat) : Prop :=
  ∀ earlier < place,
    (reports[earlier]?.any fun report => Collector.isError report.outcome) = true →
      answer (reports.take (earlier + 1)) = .proceed

instance (answer : List (Report alpha) → Flow) (reports : List (Report alpha))
    (place : Nat) : Decidable (Unstopped answer reports place) :=
  inferInstanceAs (Decidable (∀ earlier, earlier < place → _))

namespace EndsAtStop

variable {answer : List (Report alpha) → Flow} {kept leftOut : List (Report alpha)}

/-- The report that was left out first comes after an error that was answered by
`stop`. -/
theorem lt_length_of_unstopped (ends : EndsAtStop answer kept leftOut) {place : Nat}
    (inside : place < (kept ++ leftOut).length)
    (unstopped : Unstopped answer (kept ++ leftOut) place) : place < kept.length := by
  by_contra outside
  have something : leftOut ≠ [] := by
    rintro rfl
    rw [List.append_nil] at inside
    exact outside inside
  obtain ⟨before, index, error, rfl, stopped⟩ := ends.stops something
  have last : (before ++ [(⟨index, .error error⟩ : Report alpha)]).length =
      before.length + 1 := by simp
  have proceeded := unstopped before.length (by omega) (by simp [Collector.isError])
  rw [List.take_left' last, stopped] at proceeded
  cases proceeded

/-- Every error before a report that was made was answered by `proceed`. -/
theorem unstopped_of_lt_length (ends : EndsAtStop answer kept leftOut) {place : Nat}
    (made : place < kept.length) : Unstopped answer (kept ++ leftOut) place := by
  intro earlier smaller isError
  have bound : earlier < kept.length := by omega
  rw [List.getElem?_append_left bound, List.getElem?_eq_getElem bound] at isError
  rw [List.take_append_of_le_length (by omega),
    List.take_succ_eq_append_getElem bound]
  cases held : kept[earlier] with
  | mk index outcome =>
      rw [held] at isError
      cases outcome with
      | ok value =>
          simp [Collector.isError] at isError
      | error error =>
          refine ends.proceeds (kept.take earlier) index error
            (kept.drop (earlier + 1)) ?_ ?_
          · rw [← held, List.getElem_cons_drop, List.take_append_drop]
          · simp only [ne_eq, List.drop_eq_nil_iff]
            omega

/-- Picking the elements that were not stopped leaves those that were reported. -/
theorem filter_unstopped (ends : EndsAtStop answer kept leftOut)
    (accepted : beta → Bool) (elements : List beta)
    (sameLength : elements.length = (kept ++ leftOut).length) :
    (elements.zipIdx.filter fun entry =>
        accepted entry.1 ∧ Unstopped answer (kept ++ leftOut) entry.2).map Prod.fst =
      (elements.take kept.length).filter accepted := by
  have heard : ∀ entry ∈ (elements.take kept.length).zipIdx,
      decide (accepted entry.1 = true ∧
          Unstopped answer (kept ++ leftOut) entry.2) =
        (accepted ∘ Prod.fst) entry := by
    intro entry member
    have below := List.snd_lt_of_mem_zipIdx member
    rw [List.length_take] at below
    have unstopped : Unstopped answer (kept ++ leftOut) entry.2 :=
      ends.unstopped_of_lt_length (by omega)
    simp [unstopped]
  have unheard : ∀ entry ∈ (elements.drop kept.length).zipIdx kept.length,
      ¬ decide (accepted entry.1 = true ∧
          Unstopped answer (kept ++ leftOut) entry.2) = true := by
    intro entry member
    have above := List.le_snd_of_mem_zipIdx member
    have below := List.snd_lt_add_of_mem_zipIdx member
    rw [List.length_drop] at below
    have stopped : ¬ Unstopped answer (kept ++ leftOut) entry.2 := fun unstopped =>
      absurd (ends.lt_length_of_unstopped (by omega) unstopped) (by omega)
    simp [stopped]
  have lengthTake : (elements.take kept.length).length = kept.length := by
    rw [List.length_append] at sameLength
    rw [List.length_take]
    omega
  conv_lhs => rw [← List.take_append_drop kept.length elements]
  rw [List.zipIdx_append, List.filter_append, List.filter_congr heard, Nat.zero_add,
    lengthTake, List.filter_eq_nil_iff.2 unheard, List.append_nil, ← List.filter_map,
    List.zipIdx_map_fst]

end EndsAtStop
end AssetExchange
