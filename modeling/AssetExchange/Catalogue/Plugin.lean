import AssetExchange.Catalogue.Basic
import AssetExchange.Log.FilterStack
import AssetExchange.Text.Piece

/-!
# Catalogues as managers

Every batch request of a catalogue goes through `Catalogue.runBatch`: the request is
counted, a failure of the whole call comes before any element, and then the elements
are evaluated one after the other in the catalogue's order, each just before it is
reported. After an error that was answered by `stop` nothing further is evaluated.
-/

namespace AssetExchange
namespace Catalogue

variable {item alpha : Type}

/-- Reports elements one after the other. An element is evaluated just before its
report, and its evaluation may change the catalogue. -/
def reportItems (evaluate : item → Catalogue → ElementOutcome alpha × Catalogue) :
    List (item × Nat) → BatchRequest Catalogue alpha
  | [], catalogue => .done ⟨.ok (), catalogue, []⟩
  | (element, index) :: rest, catalogue =>
      let (outcome, next) := evaluate element catalogue
      match outcome with
      | .ok value => .success index value (reportItems evaluate rest next)
      | .error error =>
          .failure index error fun
            | .proceed => reportItems evaluate rest next
            | .stop => .done ⟨.ok (), next, []⟩

def runBatch (call : Call) (items : List item)
    (evaluate : item → Catalogue → ElementOutcome alpha × Catalogue) :
    BatchRequest Catalogue alpha :=
  fun catalogue =>
    let counted := catalogue.recordCall call
    match counted.callFailure with
    | some error => .done ⟨.error error, counted, []⟩
    | none => reportItems evaluate (counted.order.arrange items.zipIdx) counted

/-- Evaluates an element without changing the catalogue. -/
def reading (read : item → Catalogue → ElementOutcome alpha) :
    item → Catalogue → ElementOutcome alpha × Catalogue :=
  fun element catalogue => (read element catalogue, catalogue)

/-- Publishes one entity: its data replace what was held for the reference. -/
def publish (pair : EntityReference × TraitsData) (catalogue : Catalogue) :
    ElementOutcome EntityReference × Catalogue :=
  match catalogue.elementErrors.get? pair.1.text with
  | some error => (.error error, catalogue)
  | none => (.ok pair.1, catalogue.withEntity pair.1.text pair.2)

def counting (call : Call) (answer : Request Catalogue alpha) :
    Request Catalogue alpha :=
  fun catalogue => answer (catalogue.recordCall call)

/-- Makes the state with the next number. Numbers are words: the one after the last of
them is zero. -/
def makeState (parent : Option Nat) : Request Catalogue (Outcome ContextState) :=
  fun catalogue =>
    ⟨.ok (.numbered catalogue.nextState parent),
      { catalogue with nextState := (catalogue.nextState + 1) % wordLimit }, []⟩

/-- Takes settings over, unless the catalogue refuses to be prepared. -/
def prepare (host : Host) (settings : InfoDictionary) :
    Request Catalogue (Outcome Unit) :=
  fun catalogue =>
    match catalogue.prepareFailure with
    | some error => ⟨.error error, catalogue, []⟩
    | none =>
        ⟨.ok (),
          { catalogue with
            settings := settings
            capabilities := catalogue.laterCapabilities.getD catalogue.capabilities },
          [⟨.debug, catalogue.identifier ++ " initialized for " ++ host.identifier⟩]⟩

def plugin : Plugin Catalogue CataloguePager where
  identifier := (·.identifier)
  displayName := fun catalogue => "Stub (" ++ catalogue.identifier ++ ")"
  info := counting .info fun catalogue => ⟨catalogue.info, catalogue, []⟩
  hasCapability := fun catalogue capability => catalogue.capabilities.contains capability
  settings := counting .settings fun catalogue => ⟨.ok catalogue.settings, catalogue, []⟩
  prepare := fun host settings => counting .prepare (prepare host settings)
  flushCaches := counting .flushCaches (.answer (.ok ()))
  updateTerminology := fun terms =>
    counting .updateTerminology fun catalogue =>
      ⟨.ok (catalogue.replaceTerms terms), catalogue, []⟩
  managementPolicy := fun traitSets _ _ =>
    counting .managementPolicy fun catalogue =>
      ⟨.ok (traitSets.map fun _ => catalogue.policy), catalogue, []⟩
  recognize := fun text =>
    counting .recognize fun catalogue =>
      ⟨Text.startsWith text catalogue.scheme, catalogue, []⟩
  createState := counting .createState (makeState none)
  createChildState := fun parent =>
    counting .createChildState <|
      match parent with
      | .numbered id _ => makeState (some id)
      | .foreign => .fail .foreignState
  tokenForState := fun state =>
    counting .tokenForState <|
      match state with
      | .numbered id _ => .answer (.ok (token id))
      | .foreign => .fail .foreignState
  stateFromToken := fun text =>
    counting .stateFromToken <|
      match tokenNumber? text with
      | some id => .answer (.ok (.numbered id none))
      | none => .fail (.invalidToken text)
  entityExists := fun references _ =>
    runBatch .entityExists references <| reading fun reference catalogue =>
      catalogue.unlessError reference (.ok (catalogue.entities.contains reference.text))
  entityTraits := fun references _ _ =>
    runBatch .entityTraits references <| reading fun reference catalogue =>
      (catalogue.lookUp reference).map TraitsData.traitSet
  resolve := fun references traits _ _ =>
    runBatch .resolve references <| reading fun reference catalogue =>
      (catalogue.lookUp reference).map (·.restrict traits)
  defaultEntityReference := fun traitSets _ _ =>
    runBatch .defaultEntityReference traitSets <| reading fun traits catalogue =>
      .ok (catalogue.defaultReference? traits)
  relatedToMany := fun references relationship _ pageSize _ _ =>
    runBatch .relatedToMany references <| reading fun reference catalogue =>
      catalogue.unlessError reference
        (.ok (catalogue.pagerFor reference relationship pageSize))
  relatedByMany := fun reference relationships _ pageSize _ _ =>
    runBatch .relatedByMany relationships <| reading fun relationship catalogue =>
      catalogue.unlessError reference
        (.ok (catalogue.pagerFor reference relationship pageSize))
  preflight := fun references _ _ _ =>
    runBatch .preflight references <| reading fun reference catalogue =>
      catalogue.unlessError reference (.ok reference)
  register := fun references datas _ _ =>
    runBatch .register (references.zip datas) publish
  pagerHasNext := fun pager => .answer (pager, .ok pager.hasNext)
  pagerGet := fun pager => .answer (pager, .ok pager.page)
  pagerNext := fun pager => .answer (pager.next, .ok ())
  pagerClose := fun _ catalogue =>
    ⟨(), { catalogue with closedPagers := catalogue.closedPagers + 1 }, []⟩

end Catalogue
end AssetExchange
