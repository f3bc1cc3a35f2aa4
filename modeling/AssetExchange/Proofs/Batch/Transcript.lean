import AssetExchange.Batch.Run

/-!
# What a listener hears of a run

`BatchRun.drive` hands each report to a listener as it is made, and
`BatchRun.transcript` lists the reports that a rule for answers brings about.  A
listener is such a rule (`Listener.rule`): the answer to an error depends only on the
reports heard so far.  Hence a listener ends in the state it reaches by hearing the
reports of a transcript one after the other (`drive_eq_transcript`), and whatever
holds of transcripts holds of every listener.

Every list of reports is heard of some run (`transcript_ofReports`).
-/

namespace AssetExchange

variable {alpha beta rho omega tau : Type}

def Report.mapValue (change : alpha → beta) (report : Report alpha) : Report beta :=
  ⟨report.index, report.outcome.map change⟩

/-- The answer of a listener to the last of the reports that it heard.  The report of
a value asks for no answer. -/
def Listener.rule
    (listener : Listener tau alpha) (state : tau)
    (reports : List (Report alpha)) : Flow :=
  match reports.getLast? with
  | some ⟨index, .error error⟩ =>
      (listener.onFailure
        (reports.dropLast.foldl listener.hear state) index error).2
  | _ => .proceed

theorem Listener.rule_append_error
    (listener : Listener tau alpha) (state : tau)
    (before : List (Report alpha)) (index : Nat) (error : BatchElementError) :
    listener.rule state (before ++ [⟨index, .error error⟩]) =
      (listener.onFailure (before.foldl listener.hear state) index error).2 := by
  simp [Listener.rule]

namespace BatchRun

/-! ## Transcripts -/

/-- What was heard before stays at the beginning; the rest is heard under the rule
that remembers it. -/
theorem transcript_append
    (answer : List (Report alpha) → Flow) (run : BatchRun alpha rho)
    (before heard : List (Report alpha)) :
    run.transcript answer (before ++ heard) =
      (before ++
          (run.transcript (fun reports => answer (before ++ reports)) heard).1,
        (run.transcript (fun reports => answer (before ++ reports)) heard).2) := by
  induction run generalizing heard with
  | done result =>
      rfl
  | success index value rest inductionHypothesis =>
      simp only [transcript, List.append_assoc]
      exact inductionHypothesis _
  | failure index error rest inductionHypothesis =>
      simp only [transcript, List.append_assoc]
      exact inductionHypothesis _ _

/-- Only the answers to errors matter. -/
theorem transcript_congr
    {first second : List (Report alpha) → Flow}
    (agree : ∀ before index error,
      first (before ++ [⟨index, .error error⟩]) =
        second (before ++ [⟨index, .error error⟩]))
    (run : BatchRun alpha rho) (heard : List (Report alpha)) :
    run.transcript first heard = run.transcript second heard := by
  induction run generalizing heard with
  | done result =>
      rfl
  | success index value rest inductionHypothesis =>
      exact inductionHypothesis _
  | failure index error rest inductionHypothesis =>
      simp only [transcript, agree]
      exact inductionHypothesis _ _

theorem mapResult_mapResult (first : rho → omega) (second : omega → tau)
    (run : BatchRun alpha rho) :
    (run.mapResult first).mapResult second = run.mapResult fun result => second (first result) := by
  induction run with
  | done result =>
      rfl
  | success index value rest inductionHypothesis =>
      exact congrArg (BatchRun.success index value) inductionHypothesis
  | failure index error rest inductionHypothesis =>
      exact congrArg (BatchRun.failure index error) (funext inductionHypothesis)

/-- Changing what a call returns changes none of its reports. -/
theorem transcript_mapResult
    (change : rho → omega) (answer : List (Report alpha) → Flow)
    (run : BatchRun alpha rho) (heard : List (Report alpha)) :
    (run.mapResult change).transcript answer heard =
      ((run.transcript answer heard).1,
        change (run.transcript answer heard).2) := by
  induction run generalizing heard with
  | done result =>
      rfl
  | success index value rest inductionHypothesis =>
      exact inductionHypothesis _
  | failure index error rest inductionHypothesis =>
      exact inductionHypothesis _ _

/-- Changing the reported values changes nothing else, if the answers are those to the
changed reports. -/
theorem transcript_mapValue
    (change : alpha → beta) (answer : List (Report beta) → Flow)
    (run : BatchRun alpha rho) (heard : List (Report alpha)) :
    (run.mapValue change).transcript answer (heard.map (Report.mapValue change)) =
      ((run.transcript (fun reports => answer (reports.map (Report.mapValue change)))
          heard).1.map (Report.mapValue change),
        (run.transcript (fun reports => answer (reports.map (Report.mapValue change)))
          heard).2) := by
  induction run generalizing heard with
  | done result =>
      rfl
  | success index value rest inductionHypothesis =>
      have next := inductionHypothesis (heard ++ [⟨index, .ok value⟩])
      rw [List.map_append] at next
      exact next
  | failure index error rest inductionHypothesis =>
      have next := fun flow => inductionHypothesis flow (heard ++ [⟨index, .error error⟩])
      simp only [List.map_append] at next
      simp only [transcript, List.map_append]
      exact next _

/-- A run that pays no heed to the answers is heard as a whole. -/
theorem transcript_ofReports
    (answer : List (Report alpha) → Flow) (result : rho)
    (reports heard : List (Report alpha)) :
    (ofReports false result reports).transcript answer heard =
      (heard ++ reports, result) := by
  induction reports generalizing heard with
  | nil =>
      simp [ofReports, transcript]
  | cons report rest inductionHypothesis =>
      obtain ⟨index, outcome⟩ := report
      cases outcome with
      | ok value =>
          simp [ofReports, transcript, inductionHypothesis]
      | error error =>
          simp [ofReports, transcript, inductionHypothesis]

/-! ## Listeners -/

private theorem drive_eq_transcript_after
    (listener : Listener tau alpha) (state : tau)
    (run : BatchRun alpha rho) (heard : List (Report alpha)) :
    run.drive listener (heard.foldl listener.hear state) =
      ((run.transcript (listener.rule state) heard).1.foldl listener.hear state,
        (run.transcript (listener.rule state) heard).2) := by
  induction run generalizing heard with
  | done result =>
      rfl
  | success index value rest inductionHypothesis =>
      have next := inductionHypothesis (heard ++ [⟨index, .ok value⟩])
      simp only [List.foldl_append] at next
      exact next
  | failure index error rest inductionHypothesis =>
      simp only [drive, transcript, Listener.rule_append_error]
      have next :=
        inductionHypothesis
          (listener.onFailure (heard.foldl listener.hear state) index error).2
          (heard ++ [⟨index, .error error⟩])
      simp only [List.foldl_append] at next
      exact next

/-- A listener ends in the state that it reaches by hearing the reports of the
transcript under its own rule. -/
theorem drive_eq_transcript
    (listener : Listener tau alpha) (state : tau) (run : BatchRun alpha rho) :
    run.drive listener state =
      ((run.transcript (listener.rule state) []).1.foldl listener.hear state,
        (run.transcript (listener.rule state) []).2) :=
  drive_eq_transcript_after listener state run []

end BatchRun
end AssetExchange
