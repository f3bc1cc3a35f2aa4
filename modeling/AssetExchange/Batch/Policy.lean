import AssetExchange.Batch.Collector

/-!
# Error policies

How the errors of single elements come back from a call over many. Under
`exception` the first reported error ends the call, and the manager is asked to
stop; under `variant` every element comes back with its own outcome. A breach of the
manager's duty ends the call under either policy.
-/

namespace AssetExchange

/-- How errors of elements come back. -/
inductive ErrorPolicy
  /-- The first reported error ends the call. -/
  | exception
  /-- Every element has an outcome of its own. -/
  | variant
deriving DecidableEq

namespace ErrorPolicy

def name : ErrorPolicy → String
  | exception => "exception"
  | variant => "variant"

instance : Enumerated ErrorPolicy where
  values := [exception, variant]
  name := name
  mem_values := by intro value; cases value <;> decide
  name_injective := by intro first second; cases first <;> cases second <;> decide

/-- What one element of the result is. -/
def Element : ErrorPolicy → Type → Type
  | exception, alpha => alpha
  | variant, alpha => ElementOutcome alpha

def stopsOnError : ErrorPolicy → Bool
  | exception => true
  | variant => false

/-- The values of outcomes from an index on; an error among them ends the call. -/
def valuesFrom {alpha : Type} (subjects : List EntityReference)
    (access : Option Access) (index : Nat) :
    List (ElementOutcome alpha) → Outcome (List alpha)
  | [] => .ok []
  | .error error :: _ => .error (.ofElement index error subjects access)
  | .ok value :: rest =>
      (valuesFrom subjects access (index + 1) rest).map (value :: ·)

/-- The elements that a collector without a breach yields. -/
def elements {alpha : Type} (subjects : List EntityReference)
    (access : Option Access) :
    (policy : ErrorPolicy) → Collector alpha → Outcome (List (policy.Element alpha))
  | exception, collector =>
      match collector.firstReportedError? with
      | some (index, error) => .error (.ofElement index error subjects access)
      | none => collector.outcomes.bind (valuesFrom subjects access 0)
  | variant, collector => collector.outcomes

/-- The result of a call whose reports were collected: a breach of the manager's
duty first, then what the policy makes of the outcomes. -/
def finish {alpha : Type} (policy : ErrorPolicy) (subjects : List EntityReference)
    (access : Option Access) (collector : Collector alpha) :
    Outcome (List (policy.Element alpha)) :=
  match collector.violation with
  | some fault => .error fault.toError
  | none => policy.elements subjects access collector

end ErrorPolicy
end AssetExchange
