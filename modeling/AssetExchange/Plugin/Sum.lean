import AssetExchange.Plugin.Basic

/-!
# Managers of two kinds under one interface

A host holds managers of different kinds at once. `Plugin.sum` serves the states and
pagers of two kinds through one interface: a request goes to the manager whose state
is addressed. A pager is only ever used with a state of its own kind; with a state of
the other kind it has no pages.
-/

namespace AssetExchange

namespace BatchRequest

variable {sigma tau alpha beta : Type}

/-- Embeds states and values of a batch request that has been made. -/
def embed (state : sigma → tau) (value : alpha → beta)
    (run : BatchRun alpha (Reply sigma (Outcome Unit))) :
    BatchRun beta (Reply tau (Outcome Unit)) :=
  (run.mapValue value).mapResult (·.mapState state)

end BatchRequest

namespace Plugin

variable {sigma tau pi kappa alpha beta : Type}

def choose (left : Request sigma alpha) (right : Request tau alpha) :
    Request (sigma ⊕ tau) alpha
  | .inl state => (left state).mapState .inl
  | .inr state => (right state).mapState .inr

def chooseBatch (left : BatchRequest sigma alpha) (right : BatchRequest tau alpha) :
    BatchRequest (sigma ⊕ tau) alpha
  | .inl state => BatchRequest.embed .inl id (left state)
  | .inr state => BatchRequest.embed .inr id (right state)

def choosePagers (left : BatchRequest sigma pi) (right : BatchRequest tau kappa) :
    BatchRequest (sigma ⊕ tau) (pi ⊕ kappa)
  | .inl state => BatchRequest.embed .inl .inl (left state)
  | .inr state => BatchRequest.embed .inr .inr (right state)

/-- A request to a pager of one of two kinds; `idle` is the answer of a pager with a
state of the other kind. -/
def choosePager (left : pi → Request sigma (pi × alpha))
    (right : kappa → Request tau (kappa × alpha)) (idle : alpha) :
    pi ⊕ kappa → Request (sigma ⊕ tau) ((pi ⊕ kappa) × alpha)
  | .inl pager, .inl state =>
      ((left pager state).mapState .inl).map fun (next, answer) => (.inl next, answer)
  | .inr pager, .inr state =>
      ((right pager state).mapState .inr).map fun (next, answer) => (.inr next, answer)
  | pager, state => ⟨(pager, idle), state, []⟩

/-- Managers of two kinds under one interface. -/
def sum (left : Plugin sigma pi) (right : Plugin tau kappa) :
    Plugin (sigma ⊕ tau) (pi ⊕ kappa) where
  identifier := Sum.elim left.identifier right.identifier
  displayName := Sum.elim left.displayName right.displayName
  info := choose left.info right.info
  hasCapability := Sum.elim left.hasCapability right.hasCapability
  settings := choose left.settings right.settings
  prepare := fun host settings =>
    choose (left.prepare host settings) (right.prepare host settings)
  flushCaches := choose left.flushCaches right.flushCaches
  updateTerminology := fun terms =>
    choose (left.updateTerminology terms) (right.updateTerminology terms)
  managementPolicy := fun traitSets access context =>
    choose (left.managementPolicy traitSets access context)
      (right.managementPolicy traitSets access context)
  recognize := fun text => choose (left.recognize text) (right.recognize text)
  createState := choose left.createState right.createState
  createChildState := fun parent =>
    choose (left.createChildState parent) (right.createChildState parent)
  tokenForState := fun held => choose (left.tokenForState held) (right.tokenForState held)
  stateFromToken := fun token =>
    choose (left.stateFromToken token) (right.stateFromToken token)
  entityExists := fun references context =>
    chooseBatch (left.entityExists references context) (right.entityExists references context)
  entityTraits := fun references access context =>
    chooseBatch (left.entityTraits references access context)
      (right.entityTraits references access context)
  resolve := fun references traits access context =>
    chooseBatch (left.resolve references traits access context)
      (right.resolve references traits access context)
  defaultEntityReference := fun traitSets access context =>
    chooseBatch (left.defaultEntityReference traitSets access context)
      (right.defaultEntityReference traitSets access context)
  relatedToMany := fun references relationship traits size access context =>
    choosePagers (left.relatedToMany references relationship traits size access context)
      (right.relatedToMany references relationship traits size access context)
  relatedByMany := fun reference relationships traits size access context =>
    choosePagers (left.relatedByMany reference relationships traits size access context)
      (right.relatedByMany reference relationships traits size access context)
  preflight := fun references hints access context =>
    chooseBatch (left.preflight references hints access context)
      (right.preflight references hints access context)
  register := fun references datas access context =>
    chooseBatch (left.register references datas access context)
      (right.register references datas access context)
  pagerHasNext := choosePager left.pagerHasNext right.pagerHasNext (.ok false)
  pagerGet := choosePager left.pagerGet right.pagerGet (.ok [])
  pagerNext := choosePager left.pagerNext right.pagerNext (.ok ())
  pagerClose := fun
    | .inl pager, .inl state => (left.pagerClose pager state).mapState .inl
    | .inr pager, .inr state => (right.pagerClose pager state).mapState .inr
    | _, state => ⟨(), state, []⟩

end Plugin
end AssetExchange
