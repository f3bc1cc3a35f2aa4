import AssetExchange.Access
import AssetExchange.Capability
import AssetExchange.EntityReference

/-!
# Errors

Errors come at two levels. A `BatchElementError` belongs to one element of a batch
and says, by a code and a text, why that element failed. An `ApiError` ends a call
as a whole. Managers supply errors with texts of their own; the errors that the
host side raises itself are the causes listed in `Fault`, whose wording is given in
one place.
-/

namespace AssetExchange

/-! ## Errors of batch elements -/

/-- The category of the failure of one element. -/
inductive ErrorCode
  | unknown
  /-- Well formed but not recognised by the manager. -/
  | invalidEntityReference
  /-- Not a reference at all. -/
  | malformedEntityReference
  /-- Not accessible with the requested access. -/
  | entityAccessError
  /-- Known, but its data could not be resolved. -/
  | entityResolutionError
  | invalidPreflightHint
  /-- The requested traits do not fit the entity. -/
  | invalidTraitSet
  | authError
deriving DecidableEq

namespace ErrorCode

def name : ErrorCode → String
  | unknown => "unknown"
  | invalidEntityReference => "invalidEntityReference"
  | malformedEntityReference => "malformedEntityReference"
  | entityAccessError => "entityAccessError"
  | entityResolutionError => "entityResolutionError"
  | invalidPreflightHint => "invalidPreflightHint"
  | invalidTraitSet => "invalidTraitSet"
  | authError => "authError"

instance : Enumerated ErrorCode where
  values := [unknown, invalidEntityReference, malformedEntityReference,
    entityAccessError, entityResolutionError, invalidPreflightHint, invalidTraitSet,
    authError]
  name := name
  mem_values := by intro value; cases value <;> decide
  name_injective := by intro first second; cases first <;> cases second <;> decide

end ErrorCode

structure BatchElementError where
  code : ErrorCode
  message : String
deriving DecidableEq

namespace BatchElementError

def display (error : BatchElementError) : String :=
  error.code.name ++ ": " ++ error.message

/-- The text under which the failure of one element ends a call: code, message,
index, and where known access and reference. An empty message leaves no gap. -/
def exceptionMessage (error : BatchElementError) (index : Nat)
    (reference : Option EntityReference) (access : Option Access) : String :=
  error.code.name ++ ": " ++
    (if error.message.isEmpty then "" else error.message ++ " ") ++
    "[index=" ++ toString index ++ "]" ++
    (match access with
      | some mode => " [access=" ++ mode.name ++ "]"
      | none => "") ++
    (match reference with
      | some entity => " [entity=" ++ entity.text ++ "]"
      | none => "")

end BatchElementError

/-! ## Errors of calls -/

/-- The failure of a whole call. -/
inductive ApiError
  /-- The manager does not meet the host's requirements. -/
  | configuration (message : String)
  | inputValidation (message : String)
  /-- One element failed and ended the call. -/
  | batchElement (index : Nat) (error : BatchElementError) (message : String)
  | notImplemented (message : String)
  /-- Anything else, breaches of the manager's duties included. -/
  | unhandled (message : String)
deriving DecidableEq

def ApiError.message : ApiError → String
  | .configuration message => message
  | .inputValidation message => message
  | .batchElement _ _ message => message
  | .notImplemented message => message
  | .unhandled message => message

/-- The answer of a call. -/
abbrev Outcome (alpha : Type) := Except ApiError alpha

/-- The answer for one element of a batch. -/
abbrev ElementOutcome (alpha : Type) := Except BatchElementError alpha

/-- The causes for which the host side itself, or a manager of this library, ends a
call. -/
inductive Fault
  | missingCapabilities (manager : String) (missing : List Capability)
  | invalidReference (text : String)
  | unequalLengths (references others : Nat) (othersName : String)
  /-- Pages need room for at least one reference. -/
  | emptyPageSize
  /-- A result was reported beyond the end of the batch. -/
  | indexOutOfRange (index size : Nat)
  /-- Two results were reported for one element. -/
  | repeatedResult (index : Nat)
  | missingResult (index : Nat)
  | notOneResult
  | notImplemented (call : String)
  /-- A manager is selected that is not registered. -/
  | unknownManager (identifier : String)
  /-- A manager is to be made that is not registered. -/
  | notRegistered (identifier : String)
  /-- A setting that names the manager is not a string. -/
  | settingNotText (key kind : String)
  /-- The state of a context was made by another kind of manager. -/
  | foreignState
  | invalidToken (token : String)
deriving DecidableEq

namespace Fault

def message : Fault → String
  | missingCapabilities manager missing =>
      "Manager implementation for '" ++ manager ++
        "' does not support the required capabilities: " ++
        String.intercalate ", " (missing.map Capability.name)
  | invalidReference text => "Invalid entity reference: " ++ text
  | unequalLengths references others othersName =>
      "Parameter lists must be of the same length: " ++ toString references ++
        " entity references vs. " ++ toString others ++ " " ++ othersName ++ "."
  | emptyPageSize => "pageSize must be greater than zero."
  | indexOutOfRange index size =>
      "Manager reported batch element " ++ toString index ++ " of a batch of " ++
        toString size
  | repeatedResult index =>
      "Manager reported more than one result for batch element " ++ toString index
  | missingResult index =>
      "Manager did not report a result for batch element " ++ toString index
  | notOneResult => "Expected exactly one result for a single-element batch"
  | notImplemented call => "'" ++ call ++ "' is not implemented by this manager"
  | unknownManager identifier => "Unknown manager '" ++ identifier ++ "'"
  | notRegistered identifier =>
      "No manager registered with identifier '" ++ identifier ++ "'"
  | settingNotText key kind =>
      "Setting '" ++ key ++ "' must be a string, got " ++ kind
  | foreignState => "Not a stub manager state"
  | invalidToken token => "Invalid persistence token '" ++ token ++ "'"

def toError (fault : Fault) : ApiError :=
  match fault with
  | missingCapabilities _ _ | unknownManager _ | notRegistered _ =>
      .configuration fault.message
  | invalidReference _ | unequalLengths _ _ _ | emptyPageSize | settingNotText _ _
  | foreignState | invalidToken _ => .inputValidation fault.message
  | notImplemented _ => .notImplemented fault.message
  | indexOutOfRange _ _ | repeatedResult _ | missingResult _ | notOneResult =>
      .unhandled fault.message

end Fault

/-- The error that ends a call when one element of its batch failed. -/
def ApiError.ofElement (index : Nat) (error : BatchElementError)
    (subjects : List EntityReference) (access : Option Access) : ApiError :=
  .batchElement index error (error.exceptionMessage index subjects[index]? access)

end AssetExchange
