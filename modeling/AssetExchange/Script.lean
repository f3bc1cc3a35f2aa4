import AssetExchange.Plugin.Basic
import AssetExchange.Text.Piece

/-!
# Scripted managers

A script is a manager with a fixed identity that recognises references by how they
begin. Without a replay it supports no batch request. With one, every batch request
ignores its arguments and replays the same list of reports; the values of a report
are written once for each kind of request, and a report whose value is of another
kind is left out. The pagers of a script answer from queues and send a message before
each answer, so that the log shows what was asked of them.
-/

namespace AssetExchange

/-- A pager that answers from queues. An empty queue means no further page, an empty
page and success. -/
structure ScriptPager where
  name : String
  hasNext : List (Outcome Bool)
  pages : List (Outcome (List EntityReference))
  moves : List (Outcome Unit)

/-- A reported value, read for each kind of batch request. -/
structure ScriptValue where
  flag? : Option Bool
  traits? : Option TraitSet
  data? : Option TraitsData
  reference? : Option EntityReference
  default? : Option (Option EntityReference)
  pager? : Option ScriptPager

/-- What every batch request replays. -/
structure Replay where
  reports : List (Report ScriptValue)
  /-- Whether the replay ends at an error that is answered by `stop`. -/
  heedsStop : Bool
  failure : Option ApiError

/-- A manager that follows a script. -/
structure Script where
  identifier : String
  displayName : String
  capabilities : List Capability
  /-- Strings that begin like this are references. -/
  scheme : String
  replay : Option Replay

namespace Script

variable {alpha : Type}

/-- The report of a value of the right kind. -/
def readReport (read : ScriptValue → Option alpha) (report : Report ScriptValue) :
    Option (Report alpha) :=
  match report.outcome with
  | .error error => some ⟨report.index, .error error⟩
  | .ok value => (read value).map fun value => ⟨report.index, .ok value⟩

def serve (call : Call) (read : ScriptValue → Option alpha) :
    BatchRequest Script alpha :=
  fun script =>
    match script.replay with
    | none => Plugin.unsupportedBatch call script
    | some replay =>
        BatchRun.ofReports replay.heedsStop
          ⟨match replay.failure with
            | some error => .error error
            | none => .ok (), script, []⟩
          (replay.reports.filterMap (readReport read))

/-- The message that a pager sends before it answers. -/
def pagerMessage (pager : ScriptPager) (request : String) : List LogMessage :=
  [⟨.info, pager.name ++ "." ++ request⟩]

/-- The part of the manager that needs no replay. -/
def frame : Plugin Script ScriptPager :=
  .minimal (·.identifier) (·.displayName)
    (fun script capability => script.capabilities.contains capability)
    (fun text script => ⟨Text.startsWith text script.scheme, script, []⟩)

def plugin : Plugin Script ScriptPager :=
  { frame with
    entityExists := fun _ _ => serve .entityExists (·.flag?)
    entityTraits := fun _ _ _ => serve .entityTraits (·.traits?)
    resolve := fun _ _ _ _ => serve .resolve (·.data?)
    defaultEntityReference := fun _ _ _ => serve .defaultEntityReference (·.default?)
    relatedToMany := fun _ _ _ _ _ _ => serve .relatedToMany (·.pager?)
    relatedByMany := fun _ _ _ _ _ _ => serve .relatedByMany (·.pager?)
    preflight := fun _ _ _ _ => serve .preflight (·.reference?)
    register := fun _ _ _ _ => serve .register (·.reference?)
    pagerHasNext := fun pager script =>
      ⟨({ pager with hasNext := pager.hasNext.tail },
        pager.hasNext.head?.getD (.ok false)), script, pagerMessage pager "has_next"⟩
    pagerGet := fun pager script =>
      ⟨({ pager with pages := pager.pages.tail },
        pager.pages.head?.getD (.ok [])), script, pagerMessage pager "get"⟩
    pagerNext := fun pager script =>
      ⟨({ pager with moves := pager.moves.tail },
        pager.moves.head?.getD (.ok ())), script, pagerMessage pager "next"⟩
    pagerClose := fun pager script => ⟨(), script, pagerMessage pager "close"⟩ }

end Script
end AssetExchange
