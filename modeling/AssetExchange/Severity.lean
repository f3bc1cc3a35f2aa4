import AssetExchange.Enumerated

/-!
# Severities

Seven severities of messages, numbered from the most verbose (0) to the gravest
(6). A threshold lets a message through when the message is at least as severe.
-/

namespace AssetExchange

/-- The severity of a message. -/
inductive Severity
  /-- Traces of the calls between host and manager. -/
  | debugApi
  | debug
  | info
  | progress
  | warning
  | error
  | critical
deriving DecidableEq

namespace Severity

def name : Severity → String
  | debugApi => "debugApi"
  | debug => "debug"
  | info => "info"
  | progress => "progress"
  | warning => "warning"
  | error => "error"
  | critical => "critical"

instance : Enumerated Severity where
  values := [debugApi, debug, info, progress, warning, error, critical]
  name := name
  mem_values := by intro value; cases value <;> decide
  name_injective := by intro first second; cases first <;> cases second <;> decide

def level : Severity → Nat
  | debugApi => 0
  | debug => 1
  | info => 2
  | progress => 3
  | warning => 4
  | error => 5
  | critical => 6

def ofLevel? : Nat → Option Severity
  | 0 => some debugApi
  | 1 => some debug
  | 2 => some info
  | 3 => some progress
  | 4 => some warning
  | 5 => some error
  | 6 => some critical
  | _ => none

def passes (severity threshold : Severity) : Bool :=
  threshold.level ≤ severity.level

def max (first second : Severity) : Severity :=
  if first.level ≤ second.level then second else first

@[simp] theorem ofLevel?_level (severity : Severity) :
    ofLevel? severity.level = some severity := by
  cases severity <;> rfl

theorem ofLevel?_eq_some_iff (number : Nat) (severity : Severity) :
    ofLevel? number = some severity ↔ severity.level = number := by
  constructor
  · intro found
    unfold ofLevel? at found
    split at found <;> simp_all [level]
    all_goals subst found; rfl
  · rintro rfl
    exact ofLevel?_level severity

theorem passes_max (severity first second : Severity) :
    severity.passes (max first second) =
      (severity.passes first && severity.passes second) := by
  cases severity <;> cases first <;> cases second <;> rfl

end Severity
end AssetExchange
