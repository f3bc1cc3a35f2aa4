import AssetExchange.Error

/-!
# Batch runs

A batch call answers element by element: the manager reports a value or an error
for an index, in any order it likes, and after each error the listener says whether
to go on. `BatchRun` describes such a call as a tree of reports: behind a report of
an error there is one continuation for each answer, so a run may depend on every
answer given so far. The end of a run carries what the call itself returned.

`drive` lets a listener with a state of its own hear a run; `transcript` lists what
a run reports when the answers are chosen from what was reported before.
-/

namespace AssetExchange

universe u

/-- The answer to the report of an error. -/
inductive Flow
  | proceed
  /-- Start no further elements. -/
  | stop
deriving DecidableEq

structure Report (alpha : Type) where
  index : Nat
  outcome : ElementOutcome alpha

/-- A batch call as the reports that it makes, depending on the answers it gets. -/
inductive BatchRun (alpha rho : Type)
  | done (result : rho)
  | success (index : Nat) (value : alpha) (rest : BatchRun alpha rho)
  /-- The error of an element is reported, and the answer decides how to go on. -/
  | failure (index : Nat) (error : BatchElementError)
      (rest : Flow → BatchRun alpha rho)

/-- Someone who hears reports and answers errors. -/
structure Listener (tau alpha : Type) where
  onSuccess : tau → Nat → alpha → tau
  onFailure : tau → Nat → BatchElementError → tau × Flow

namespace BatchRun

variable {alpha beta rho omega tau : Type}

/-- Lets a listener hear a run. The listener's final state and the result of the
call are returned. -/
def drive (listener : Listener tau alpha) (state : tau) :
    BatchRun alpha rho → tau × rho
  | done result => (state, result)
  | success index value rest =>
      drive listener (listener.onSuccess state index value) rest
  | failure index error rest =>
      let (next, flow) := listener.onFailure state index error
      drive listener next (rest flow)

/-- The reports of a run, when each error is answered by a rule that looks at every
report made so far, that error included. -/
def transcript (answer : List (Report alpha) → Flow) (heard : List (Report alpha)) :
    BatchRun alpha rho → List (Report alpha) × rho
  | done result => (heard, result)
  | success index value rest =>
      transcript answer (heard ++ [⟨index, .ok value⟩]) rest
  | failure index error rest =>
      let reports := heard ++ [⟨index, .error error⟩]
      transcript answer reports (rest (answer reports))

def mapValue (change : alpha → beta) : BatchRun alpha rho → BatchRun beta rho
  | done result => done result
  | success index value rest => success index (change value) (mapValue change rest)
  | failure index error rest => failure index error fun flow => mapValue change (rest flow)

def mapResult (change : rho → omega) : BatchRun alpha rho → BatchRun alpha omega
  | done result => done (change result)
  | success index value rest => success index value (mapResult change rest)
  | failure index error rest => failure index error fun flow => mapResult change (rest flow)

/-- The run that makes the given reports. When `heeds` is set it makes no further
report once an error was answered by `stop`. -/
def ofReports (heeds : Bool) (result : rho) : List (Report alpha) → BatchRun alpha rho
  | [] => done result
  | ⟨index, .ok value⟩ :: rest => success index value (ofReports heeds result rest)
  | ⟨index, .error error⟩ :: rest =>
      failure index error fun flow =>
        if heeds && flow == .stop then done result else ofReports heeds result rest

end BatchRun

def Listener.hear {tau alpha : Type} (listener : Listener tau alpha) (state : tau)
    (report : Report alpha) : tau :=
  match report.outcome with
  | .ok value => listener.onSuccess state report.index value
  | .error error => (listener.onFailure state report.index error).1

end AssetExchange
