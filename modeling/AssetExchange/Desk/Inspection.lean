import AssetExchange.AnyManager
import AssetExchange.Desk.Operation

/-!
# Inspecting the managers of a desk

A host that set up its managers itself may look behind their interface. An
`Inspection` is addressed to the manager at a place of the session and never counts
as a request; all but the verification of capabilities need a catalogue there. The
counts of all catalogues together and what the log has recorded tell what a step at
the desk caused.
-/

namespace AssetExchange

/-- A desk for managers of any kind. -/
abbrev AnyDesk := Desk AnyManager AnyPager

/-- Something asked about a manager without using its interface. -/
inductive Inspection
  | closedPagers
  | entity (reference : String)
  | callCount (name : String)
  | setPrepareFailure (failure : Option ApiError)
  | verifyCapabilities

/-- What an inspection finds. -/
inductive Finding
  | nothing
  | count (value : Nat)
  | maybeData (value : Option TraitsData)
  | failure (error : ApiError)
  /-- There is no manager there, or it is not a catalogue. -/
  | missing

namespace Desk

def managerAt? (desk : AnyDesk) (place : Nat) : Option AnyManager :=
  desk.session.managers[place]?.map Manager.state

/-- The place of the manager that was made last, if there is one. -/
def lastPlace? (desk : AnyDesk) : Option Nat :=
  if desk.session.managers.isEmpty then none else some (desk.session.managers.length - 1)

def setManagerAt (desk : AnyDesk) (place : Nat) (state : AnyManager) : AnyDesk :=
  { desk with
    session := { desk.session with
      managers := desk.session.managers.modify place fun manager =>
        { manager with state := state } } }

def findIn (state : AnyManager) (read : Catalogue → Finding) : Finding :=
  match AnyManager.catalogue? state with
  | some catalogue => read catalogue
  | none => .missing

def inspectManager (state : AnyManager) : Inspection → Finding × AnyManager
  | .closedPagers => (findIn state fun catalogue => .count catalogue.closedPagers, state)
  | .entity reference =>
      (findIn state fun catalogue => .maybeData (catalogue.entity? reference), state)
  | .callCount name =>
      (findIn state fun catalogue => .count (catalogue.callCount name), state)
  | .setPrepareFailure failure =>
      match state with
      | .inl catalogue => (.nothing, .inl { catalogue with prepareFailure := failure })
      | .inr _ => (.missing, state)
  | .verifyCapabilities =>
      match AnyManager.plugin.verifyCapabilities state with
      | .ok () => (.nothing, state)
      | .error error => (.failure error, state)

/-- Inspects the manager at a place; without a place, the one that was made last. -/
def inspect (place : Option Nat) (inspection : Inspection) (desk : AnyDesk) :
    Finding × AnyDesk :=
  match place.or desk.lastPlace? with
  | none => (.missing, desk)
  | some place =>
      match desk.managerAt? place with
      | none => (.missing, desk)
      | some state =>
          let (finding, after) := inspectManager state inspection
          (finding, desk.setManagerAt place after)

def callCounts (desk : AnyDesk) : Dictionary Nat :=
  (desk.session.managers.map fun manager => AnyManager.calls manager.state).foldl
    addCounts .empty

/-- Forgets what the log has recorded. -/
def clearLog (desk : AnyDesk) : AnyDesk :=
  { desk with log := desk.log.clear }

/-- The recorded messages beyond those of an earlier time. -/
def recordedSince (before after : AnyDesk) : List LogMessage :=
  after.log.entries.drop before.log.entries.length

def callsSince (before after : AnyDesk) : Dictionary Nat :=
  countsSince before.callCounts after.callCounts

end Desk
end AssetExchange
