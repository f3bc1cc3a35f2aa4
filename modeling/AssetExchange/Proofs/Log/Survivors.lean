import AssetExchange.Log.FilterStack
import Mathlib.Data.List.Basic
import Mathlib.Data.List.Induction

/-!
# What a stack of filters records

A message survives if it is at least as severe as every threshold from the layer on that
it was handed to.  After any steps the recorder holds what survived since it was cleared
last, in the order of the steps (`entries_performAll_eq`).  The thresholds that count
are those at the time of the step; `thresholdsAfter` reads them off the steps before it.

What a filter says about a severity is another matter, as it looks at its own threshold
alone: it never denies a message that is recorded, but it may promise one that a filter
further in drops (`admits_iff_recorded_iff`).
-/

namespace AssetExchange

namespace Severity

theorem passes_iff (severity threshold : Severity) :
    severity.passes threshold = true ↔ threshold.level ≤ severity.level := by
  simp [passes]

/-- The strictest of some thresholds; without any everything passes. -/
def strictest : List Severity → Severity
  | [] => .debugApi
  | threshold :: others => max threshold (strictest others)

theorem passes_strictest (severity : Severity) (thresholds : List Severity) :
    severity.passes (strictest thresholds) = thresholds.all severity.passes := by
  induction thresholds with
  | nil =>
      cases severity <;> rfl
  | cons threshold others inductionHypothesis =>
      rw [strictest, passes_max, inductionHypothesis, List.all_cons]

end Severity

/-! ## Steps -/

/-- Something that is done with a stack of filters. -/
inductive LogStep
  | log (message : LogMessage)
  /-- Hands a message to the outermost layer by the operation named after its
  severity. -/
  | logNamed (message : LogMessage)
  /-- Hands a message to the layer behind the first `depth` filters. -/
  | logAt (depth : Nat) (message : LogMessage)
  | setThreshold (threshold : Severity)
  | clear
deriving DecidableEq

namespace LogStep

/-- The message that a step logs, and how many filters it goes past. -/
def call? : LogStep → Option (Nat × LogMessage)
  | log message => some (0, message)
  | logNamed message => some (0, message)
  | logAt depth message => some (depth, message)
  | setThreshold _ => none
  | clear => none

/-- The threshold that a step gives to the outermost filter. -/
def newThreshold? : LogStep → Option Severity
  | setThreshold threshold => some threshold
  | _ => none

end LogStep

namespace FilterStack

def perform (stack : FilterStack) : LogStep → FilterStack
  | .log message => stack.log message.severity message.text
  | .logNamed message => stack.logNamed message.severity message.text
  | .logAt depth message => stack.logAt depth message.severity message.text
  | .setThreshold threshold => stack.setThreshold threshold
  | .clear => stack.clear

def performAll (stack : FilterStack) (steps : List LogStep) : FilterStack :=
  steps.foldl perform stack

theorem performAll_concat (stack : FilterStack) (steps : List LogStep) (step : LogStep) :
    stack.performAll (steps ++ [step]) = (stack.performAll steps).perform step :=
  List.foldl_concat perform stack step steps

theorem logNamed_eq_log (stack : FilterStack) (severity : Severity) :
    stack.logNamed severity = stack.log severity := by
  cases severity <;> rfl

end FilterStack

/-! ## What survives -/

def withOutermost : Option Severity → List Severity → List Severity
  | none, thresholds => thresholds
  | some _, [] => []
  | some newest, _ :: inner => newest :: inner

/-- The thresholds after some steps: the outermost one is the one that was set last. -/
def thresholdsAfter (thresholds : List Severity) (steps : List LogStep) : List Severity :=
  withOutermost (steps.filterMap LogStep.newThreshold?).getLast? thresholds

/-- The message that a step logs if it is at least as severe as every threshold from the
layer on that it is handed to. -/
def survivor? (thresholds : List Severity) (step : LogStep) : Option LogMessage :=
  match step.call? with
  | some (depth, message) =>
      if ∀ threshold ∈ thresholds.drop depth, threshold.level ≤ message.severity.level then
        some message
      else none
  | none => none

/-- What the recorder holds, of what was logged by the step at a place, after all the
steps: a message that survived the thresholds of that time, unless the recorder was
cleared later. -/
def keptAt (thresholds : List Severity) (steps : List LogStep) (place : Nat) :
    Option LogMessage :=
  if LogStep.clear ∈ steps.drop place then none
  else steps[place]?.bind (survivor? (thresholdsAfter thresholds (steps.take place)))

section History

variable (thresholds : List Severity) (steps : List LogStep)

theorem thresholdsAfter_concat (step : LogStep) :
    thresholdsAfter thresholds (steps ++ [step]) =
      withOutermost step.newThreshold? (thresholdsAfter thresholds steps) := by
  cases changed : step.newThreshold? with
  | none =>
      simp [thresholdsAfter, withOutermost, changed]
  | some newest =>
      have setNow : ((steps ++ [step]).filterMap LogStep.newThreshold?).getLast? =
          some newest := by
        simp [changed]
      rw [thresholdsAfter, setNow, thresholdsAfter]
      cases thresholds with
      | nil =>
          cases (steps.filterMap LogStep.newThreshold?).getLast? <;> rfl
      | cons outer inner =>
          cases (steps.filterMap LogStep.newThreshold?).getLast? <;> rfl

theorem keptAt_concat_of_lt {place : Nat} (earlier : place < steps.length)
    (step : LogStep) :
    keptAt thresholds (steps ++ [step]) place =
      if step = .clear then none else keptAt thresholds steps place := by
  have dropped : (steps ++ [step]).drop place = steps.drop place ++ [step] :=
    List.drop_append_of_le_length (Nat.le_of_lt earlier)
  have taken : (steps ++ [step]).take place = steps.take place :=
    List.take_append_of_le_length (Nat.le_of_lt earlier)
  have found : (steps ++ [step])[place]? = steps[place]? :=
    List.getElem?_append_left earlier
  rw [keptAt, keptAt, dropped, taken, found]
  by_cases clears : step = .clear
  · simp [clears]
  · simp [clears, Ne.symm clears]

theorem keptAt_concat_length (step : LogStep) :
    keptAt thresholds (steps ++ [step]) steps.length =
      survivor? (thresholdsAfter thresholds steps) step := by
  have dropped : (steps ++ [step]).drop steps.length = [step] := List.drop_left
  have taken : (steps ++ [step]).take steps.length = steps := List.take_left
  have found : (steps ++ [step])[steps.length]? = some step := List.getElem?_concat_length
  rw [keptAt, dropped, taken, found]
  by_cases clears : step = .clear
  · simp [clears, survivor?, LogStep.call?]
  · simp [Ne.symm clears]

/-- A further step adds what survives of it, or clears what was kept. -/
theorem filterMap_keptAt_concat (step : LogStep) :
    (List.range (steps ++ [step]).length).filterMap
        (keptAt thresholds (steps ++ [step])) =
      (if step = .clear then []
        else (List.range steps.length).filterMap (keptAt thresholds steps)) ++
        (survivor? (thresholdsAfter thresholds steps) step).toList := by
  have last := keptAt_concat_length thresholds steps step
  have earlier : (List.range steps.length).filterMap
      (keptAt thresholds (steps ++ [step])) =
        (List.range steps.length).filterMap fun place =>
          if step = .clear then none else keptAt thresholds steps place := by
    apply List.filterMap_congr
    intro place inRange
    exact keptAt_concat_of_lt thresholds steps (List.mem_range.1 inRange) step
  rw [List.length_append, List.length_singleton, List.range_succ, List.filterMap_append,
    earlier, List.filterMap_cons, last]
  by_cases clears : step = .clear
  · subst clears
    simp [survivor?, LogStep.call?]
  · cases survivor? (thresholdsAfter thresholds steps) step <;> simp [clears]

end History

/-! ## What is recorded -/

namespace FilterStack

theorem thresholds_perform (stack : FilterStack) (step : LogStep) :
    (stack.perform step).thresholds =
      withOutermost step.newThreshold? stack.thresholds := by
  cases step with
  | setThreshold threshold =>
      obtain ⟨_ | ⟨outer, inner⟩, entries⟩ := stack <;> rfl
  | logNamed message =>
      rw [perform, logNamed_eq_log]
      rfl
  | _ =>
      rfl

theorem thresholds_performAll (stack : FilterStack) (steps : List LogStep) :
    (stack.performAll steps).thresholds = thresholdsAfter stack.thresholds steps := by
  induction steps using List.reverseRecOn with
  | nil =>
      rfl
  | append_singleton before step inductionHypothesis =>
      rw [performAll_concat, thresholds_perform, inductionHypothesis,
        thresholdsAfter_concat]

theorem entries_logAt_eq (stack : FilterStack) (depth : Nat) (message : LogMessage) :
    (stack.logAt depth message.severity message.text).entries =
      stack.entries ++ (survivor? stack.thresholds (.logAt depth message)).toList := by
  have passes : (stack.thresholds.drop depth).all message.severity.passes = true ↔
      ∀ threshold ∈ stack.thresholds.drop depth,
        threshold.level ≤ message.severity.level := by
    simp only [List.all_eq_true, Severity.passes_iff]
  rw [entries_logAt]
  by_cases survives : (stack.thresholds.drop depth).all message.severity.passes = true
  · simp only [survivor?, LogStep.call?, if_pos survives, if_pos (passes.1 survives)]
    rfl
  · simp only [survivor?, LogStep.call?, if_neg survives, if_neg (mt passes.2 survives)]
    rfl

/-- A step adds what survives of it, or clears what was recorded. -/
theorem entries_perform (stack : FilterStack) (step : LogStep) :
    (stack.perform step).entries =
      (if step = .clear then [] else stack.entries) ++
        (survivor? stack.thresholds step).toList := by
  cases step with
  | log message =>
      exact stack.entries_logAt_eq 0 message
  | logNamed message =>
      rw [perform, logNamed_eq_log]
      exact stack.entries_logAt_eq 0 message
  | logAt depth message =>
      exact stack.entries_logAt_eq depth message
  | setThreshold threshold =>
      obtain ⟨thresholds, entries⟩ := stack
      cases thresholds <;> simp [perform, setThreshold, survivor?, LogStep.call?]
  | clear =>
      simp [perform, FilterStack.clear, survivor?, LogStep.call?]

theorem entries_performAll (stack : FilterStack) (steps : List LogStep) :
    (stack.performAll steps).entries =
      (if LogStep.clear ∈ steps then [] else stack.entries) ++
        (List.range steps.length).filterMap (keptAt stack.thresholds steps) := by
  induction steps using List.reverseRecOn with
  | nil =>
      simp [performAll]
  | append_singleton before step inductionHypothesis =>
      rw [performAll_concat, entries_perform, thresholds_performAll, inductionHypothesis,
        filterMap_keptAt_concat, ← List.append_assoc]
      congr 1
      by_cases clears : step = .clear
      · simp [clears]
      · simp [clears, Ne.symm clears]

/-- What a layer does with a message is what one filter does that has the strictest
threshold of the layer and those further in. -/
theorem entries_logAt_strictest (stack : FilterStack) (depth : Nat)
    (severity : Severity) (text : String) :
    (stack.logAt depth severity text).entries =
      (FilterStack.log ⟨[.strictest (stack.thresholds.drop depth)], stack.entries⟩
        severity text).entries := by
  rw [log, entries_logAt, entries_logAt, List.drop_zero, List.all_cons, List.all_nil,
    Bool.and_true, Severity.passes_strictest]

theorem map_messages (stack : FilterStack) (severity : Severity) :
    (stack.messages severity).map (LogMessage.mk severity) =
      stack.entries.filter (·.severity = severity) := by
  rw [messages, List.map_map]
  have same : stack.entries.filter (·.severity == severity) =
      stack.entries.filter (·.severity = severity) := by
    congr 1
  rw [same]
  refine (List.map_congr_left fun message member => ?_).trans (List.map_id _)
  obtain ⟨_, chosen⟩ := List.mem_filter.1 member
  rw [Function.comp_apply, ← of_decide_eq_true chosen]
  rfl

/-- After any steps a recorder holds exactly what survived since it was cleared last, in
the order of the steps: what was logged at least as severe as every threshold that was in
force then, from the layer on that it was handed to.

So, at any time, a layer treats a message as one filter with the strictest threshold from
there on does, the operation named after a severity is the general one with that
severity, and the texts of a severity are those of the entries that have it. -/
theorem entries_performAll_eq (start : FilterStack) (steps : List LogStep) :
    let stack := start.performAll steps
    (stack.entries =
      (if LogStep.clear ∈ steps then [] else start.entries) ++
        (List.range steps.length).filterMap (keptAt start.thresholds steps)) ∧
    (∀ depth severity text,
      (stack.logAt depth severity text).entries =
        (FilterStack.log
          ⟨[.strictest ((thresholdsAfter start.thresholds steps).drop depth)],
            stack.entries⟩ severity text).entries) ∧
    (∀ severity text, stack.logNamed severity text = stack.log severity text) ∧
    ∀ severity,
      (stack.messages severity).map (LogMessage.mk severity) =
        stack.entries.filter (·.severity = severity) := by
  intro stack
  refine ⟨start.entries_performAll steps, fun depth severity text => ?_,
    fun severity text => ?_, fun severity => stack.map_messages severity⟩
  · rw [← thresholds_performAll]
    exact stack.entries_logAt_strictest depth severity text
  · rw [logNamed_eq_log]

/-! ## What a filter says -/

/-- A stack that records a message has said so.  It keeps what it says exactly if no
filter further in is stricter about a severity that the outermost one lets through. -/
theorem admits_iff_recorded_iff (stack : FilterStack) (severity : Severity)
    (text : String) :
    let recorded :=
      (stack.log severity text).entries = stack.entries ++ [⟨severity, text⟩]
    (recorded → stack.admits severity = true) ∧
      ((stack.admits severity = true ↔ recorded) ↔
        ∀ outer inner, stack.thresholds = outer :: inner →
          outer.level ≤ severity.level →
            ∀ threshold ∈ inner, threshold.level ≤ severity.level) := by
  intro recorded
  have recorded_iff : recorded ↔
      ∀ threshold ∈ stack.thresholds, threshold.level ≤ severity.level := by
    have added : (stack.log severity text).entries =
        stack.entries ++ (survivor? stack.thresholds (.log ⟨severity, text⟩)).toList :=
      stack.entries_logAt_eq 0 ⟨severity, text⟩
    simp only [recorded, added, survivor?, LogStep.call?, List.drop_zero,
      List.append_cancel_left_eq]
    split
    · next passes => exact iff_of_true rfl passes
    · next dropped => exact iff_of_false (List.cons_ne_nil _ _).symm dropped
  rw [recorded_iff]
  obtain ⟨_ | ⟨outer, inner⟩, entries⟩ := stack
  · simp [admits, admitsAt, FilterStack.layersAdmit]
  · have promised : FilterStack.admits ⟨outer :: inner, entries⟩ severity = true ↔
        outer.level ≤ severity.level := severity.passes_iff outer
    rw [promised, List.forall_mem_cons]
    constructor
    · exact And.left
    · constructor
      · rintro same _ _ ⟨⟩ passes
        exact (same.1 passes).2
      · intro agreed
        exact ⟨fun passes => ⟨passes, agreed outer inner rfl passes⟩, And.left⟩

/-- A filter for everything above traces promises a note, and one for errors behind it
drops it. -/
theorem admits_note_unrecorded :
    ¬ ∀ (stack : FilterStack) (severity : Severity) (text : String),
      stack.admits severity = true ↔
        (stack.log severity text).entries = stack.entries ++ [⟨severity, text⟩] := by
  intro truthful
  have promised := truthful ⟨[.debug, .error], []⟩ .info "saved"
  exact absurd promised (by decide)

end FilterStack
end AssetExchange
