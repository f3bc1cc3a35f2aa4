import AssetExchange.Batch.Run

/-!
# Collecting the reports of a batch

A collector has one slot for each element of a batch. The first report of an index
fills its slot. A report beyond the end, or for a slot that is filled already,
changes no slot; the first such report is remembered, since it breaks the manager's
duty to report every element exactly once. The collector also remembers which error
was the first to be reported.
-/

namespace AssetExchange

/-- What a collector has heard. -/
structure Collector (alpha : Type) where
  /-- One slot for each element, filled by its first report. -/
  slots : List (Option (ElementOutcome alpha))
  /-- The index of the error that was reported first. -/
  firstError : Option Nat
  /-- The first report that broke the manager's duty. -/
  violation : Option Fault

namespace Collector

variable {alpha : Type}

def ofSize (size : Nat) : Collector alpha :=
  ⟨List.replicate size none, none, none⟩

/-- How a report of this index breaks the manager's duty, if it does. -/
def breach (collector : Collector alpha) (index : Nat) : Option Fault :=
  match collector.slots[index]? with
  | none => some (.indexOutOfRange index collector.slots.length)
  | some (some _) => some (.repeatedResult index)
  | some none => none

def isError : ElementOutcome alpha → Bool
  | .error _ => true
  | .ok _ => false

def record (collector : Collector alpha) (index : Nat)
    (outcome : ElementOutcome alpha) : Collector alpha :=
  match collector.breach index with
  | some fault =>
      { collector with violation := collector.violation.or (some fault) }
  | none =>
      { collector with
        slots := collector.slots.set index (some outcome)
        firstError :=
          if isError outcome then collector.firstError.or (some index)
          else collector.firstError }

/-- The listener that takes every report down and answers errors with `stop` or
`proceed`, as it was set up. -/
def listener (stopOnError : Bool) : Listener (Collector alpha) alpha where
  onSuccess := fun collector index value => collector.record index (.ok value)
  onFailure := fun collector index error =>
    (collector.record index (.error error),
      if stopOnError then .stop else .proceed)

def firstReportedError? (collector : Collector alpha) :
    Option (Nat × BatchElementError) :=
  match collector.firstError with
  | none => none
  | some index =>
      match collector.slots[index]? with
      | some (some (.error error)) => some (index, error)
      | _ => none

/-- The outcomes of slots from an index on; the first empty one is a fault. -/
def filledFrom (index : Nat) :
    List (Option (ElementOutcome alpha)) → Outcome (List (ElementOutcome alpha))
  | [] => .ok []
  | none :: _ => .error (Fault.missingResult index).toError
  | some outcome :: rest => (filledFrom (index + 1) rest).map (outcome :: ·)

/-- The outcomes of all elements, in the order of the batch. -/
def outcomes (collector : Collector alpha) : Outcome (List (ElementOutcome alpha)) :=
  filledFrom 0 collector.slots

end Collector
end AssetExchange
