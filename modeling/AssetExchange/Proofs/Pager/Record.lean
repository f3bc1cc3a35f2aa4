import AssetExchange.Pager.Pages
import AssetExchange.Desk.Operation
import AssetExchange.Proofs.Batch.Transcript

/-!
# A record of the requests that pagers get

To say what happens to a pager that a manager hands out, pagers have to be told apart.
`Plugin.recorded` makes of any manager one that behaves the same: it numbers its pagers
in the order in which they reach the host, each with a ticket of its own, and records
which request each of them gets.
-/

namespace AssetExchange

variable {sigma pi alpha : Type}

/-- A request to a pager. -/
inductive PagerCall
  | hasNext
  | get
  | next
  | close
deriving DecidableEq

/-- The manager after it has served a request to one of its pagers. -/
def PagerCall.served (plugin : Plugin sigma pi) (pager : pi) (state : sigma) :
    PagerCall → sigma
  | hasNext => (plugin.pagerHasNext pager state).state
  | get => (plugin.pagerGet pager state).state
  | next => (plugin.pagerNext pager state).state
  | close => (plugin.pagerClose pager state).state

/-- A pager with the ticket that tells it from the other pagers of its manager. -/
structure Ticketed (pi : Type) where
  ticket : Nat
  pager : pi

/-- A manager with a record of its pagers. -/
structure Recorded (sigma : Type) where
  state : sigma
  /-- How many pagers have reached the host.  The next one gets this as its ticket. -/
  delivered : Nat
  /-- The requests to pagers, oldest first, each with the ticket of the pager. -/
  record : List (Nat × PagerCall)

namespace Recorded

def fresh (state : sigma) : Recorded sigma := ⟨state, 0, []⟩

/-- The requests to the pager with a ticket, oldest first. -/
def callsOf (held : Recorded sigma) (ticket : Nat) : List PagerCall :=
  (held.record.filter fun entry => entry.1 = ticket).map Prod.snd

/-- Serves a request to the pager with a ticket and records it. -/
def noted (plugin : Plugin sigma pi) (ticket : Nat) (call : PagerCall) (pager : pi)
    (held : Recorded sigma) : Recorded sigma :=
  ⟨call.served plugin pager held.state, held.delivered, held.record ++ [(ticket, call)]⟩

/-- A request that has nothing to do with pagers. -/
def lift (request : Request sigma alpha) : Request (Recorded sigma) alpha :=
  fun held => (request held.state).mapState fun state => { held with state := state }

/-- A batch request that has nothing to do with pagers. -/
def liftBatch (request : BatchRequest sigma alpha) : BatchRequest (Recorded sigma) alpha :=
  fun held => (request held.state).mapResult fun reply =>
    reply.mapState fun state => { held with state := state }

/-- Numbers the pagers of a batch request as they are reported. -/
def number (held : Recorded sigma) :
    Nat → BatchRun pi (Reply sigma (Outcome Unit)) →
      BatchRun (Ticketed pi) (Reply (Recorded sigma) (Outcome Unit))
  | ticket, .done reply =>
      .done (reply.mapState fun state => ⟨state, ticket, held.record⟩)
  | ticket, .success index pager rest =>
      .success index ⟨ticket, pager⟩ (number held (ticket + 1) rest)
  | ticket, .failure index error rest =>
      .failure index error fun flow => number held ticket (rest flow)

def numbered (request : BatchRequest sigma pi) :
    BatchRequest (Recorded sigma) (Ticketed pi) :=
  fun held => number held held.delivered (request held.state)

/-- A request to a pager. -/
def noting (call : PagerCall) (request : pi → Request sigma (pi × alpha)) :
    Ticketed pi → Request (Recorded sigma) (Ticketed pi × alpha) :=
  fun ticketed held =>
    let reply := request ticketed.pager held.state
    ⟨(⟨ticketed.ticket, reply.answer.1⟩, reply.answer.2),
      ⟨reply.state, held.delivered, held.record ++ [(ticketed.ticket, call)]⟩,
      reply.messages⟩

end Recorded

open Recorded in
/-- The manager that keeps a record of its pagers and is otherwise the same. -/
def Plugin.recorded (plugin : Plugin sigma pi) : Plugin (Recorded sigma) (Ticketed pi) where
  identifier := fun held => plugin.identifier held.state
  displayName := fun held => plugin.displayName held.state
  info := lift plugin.info
  hasCapability := fun held => plugin.hasCapability held.state
  settings := lift plugin.settings
  prepare := fun host settings => lift (plugin.prepare host settings)
  flushCaches := lift plugin.flushCaches
  updateTerminology := fun terms => lift (plugin.updateTerminology terms)
  managementPolicy := fun traitSets access context =>
    lift (plugin.managementPolicy traitSets access context)
  recognize := fun text => lift (plugin.recognize text)
  createState := lift plugin.createState
  createChildState := fun parent => lift (plugin.createChildState parent)
  tokenForState := fun state => lift (plugin.tokenForState state)
  stateFromToken := fun token => lift (plugin.stateFromToken token)
  entityExists := fun references context => liftBatch (plugin.entityExists references context)
  entityTraits := fun references access context =>
    liftBatch (plugin.entityTraits references access context)
  resolve := fun references traits access context =>
    liftBatch (plugin.resolve references traits access context)
  defaultEntityReference := fun traitSets access context =>
    liftBatch (plugin.defaultEntityReference traitSets access context)
  relatedToMany := fun references relationship resultTraits pageSize access context =>
    numbered (plugin.relatedToMany references relationship resultTraits pageSize access context)
  relatedByMany := fun reference relationships resultTraits pageSize access context =>
    numbered (plugin.relatedByMany reference relationships resultTraits pageSize access context)
  preflight := fun references hints access context =>
    liftBatch (plugin.preflight references hints access context)
  register := fun references datas access context =>
    liftBatch (plugin.register references datas access context)
  pagerHasNext := noting .hasNext plugin.pagerHasNext
  pagerGet := noting .get plugin.pagerGet
  pagerNext := noting .next plugin.pagerNext
  pagerClose := fun ticketed held =>
    let reply := plugin.pagerClose ticketed.pager held.state
    ⟨(), held.noted plugin ticketed.ticket .close ticketed.pager, reply.messages⟩

/-! ## What is heard of a query -/

/-- The tickets of the pagers that were reported, in the order of the reports. -/
def ticketsOf : List (Report (Ticketed pi)) → List Nat
  | [] => []
  | ⟨_, .ok ticketed⟩ :: rest => ticketed.ticket :: ticketsOf rest
  | ⟨_, .error _⟩ :: rest => ticketsOf rest

/-- The answers of a listener who looks at the outlines of the reports. -/
def AnswerRule.onOutlines (rule : AnswerRule) (reports : List (Report alpha)) : Flow :=
  rule (reports.map Report.outline)

theorem outline_mapValue {beta : Type} (change : alpha → beta) (report : Report alpha) :
    (report.mapValue change).outline = report.outline := by
  obtain ⟨index, outcome⟩ := report
  cases outcome <;> rfl

theorem onOutlines_map {beta : Type} (rule : AnswerRule) (change : alpha → beta)
    (reports : List (Report alpha)) :
    rule.onOutlines (reports.map (Report.mapValue change)) = rule.onOutlines reports := by
  unfold AnswerRule.onOutlines
  rw [List.map_map]
  congr 2
  funext report
  exact outline_mapValue change report

/-- The pagers of a query get the next tickets, in the order in which they are reported.
Otherwise the query is heard as the manager itself makes it. -/
theorem transcript_number (rule : AnswerRule) (held : Recorded sigma)
    (run : BatchRun pi (Reply sigma (Outcome Unit))) (ticket : Nat)
    (heard : List (Report (Ticketed pi))) :
    ∃ new count,
      (Recorded.number held ticket run).transcript rule.onOutlines heard =
          (heard ++ new,
            (run.transcript rule.onOutlines
              (heard.map (Report.mapValue Ticketed.pager))).2.mapState
                fun state => ⟨state, ticket + count, held.record⟩) ∧
        ticketsOf new = List.range' ticket count ∧
        (heard ++ new).map (Report.mapValue Ticketed.pager) =
          (run.transcript rule.onOutlines
            (heard.map (Report.mapValue Ticketed.pager))).1 := by
  induction run generalizing ticket heard with
  | done reply =>
      refine ⟨[], 0, ?_, rfl, ?_⟩
      · rw [List.append_nil]
        rfl
      · rw [List.append_nil]
        rfl
  | success index pager rest inductionHypothesis =>
      obtain ⟨new, count, same, tickets, forgotten⟩ :=
        inductionHypothesis (ticket + 1) (heard ++ [⟨index, .ok ⟨ticket, pager⟩⟩])
      have mapped : (heard ++ [(⟨index, .ok ⟨ticket, pager⟩⟩ : Report (Ticketed pi))]).map
          (Report.mapValue Ticketed.pager) =
            heard.map (Report.mapValue Ticketed.pager) ++ [⟨index, .ok pager⟩] :=
        List.map_append
      have more : ticket + 1 + count = ticket + (count + 1) := by omega
      rw [List.append_assoc, mapped] at same forgotten
      rw [more] at same
      refine ⟨⟨index, .ok ⟨ticket, pager⟩⟩ :: new, count + 1, same, ?_, forgotten⟩
      rw [ticketsOf, tickets, List.range'_succ]
  | failure index error rest inductionHypothesis =>
      let report : Report (Ticketed pi) := ⟨index, .error error⟩
      have mapped : (heard ++ [report]).map (Report.mapValue Ticketed.pager) =
          heard.map (Report.mapValue Ticketed.pager) ++ [⟨index, .error error⟩] :=
        List.map_append
      have answered : rule.onOutlines
          (heard.map (Report.mapValue Ticketed.pager) ++ [⟨index, .error error⟩]) =
            rule.onOutlines (heard ++ [report]) := by
        rw [← mapped, onOutlines_map]
      obtain ⟨new, count, same, tickets, forgotten⟩ :=
        inductionHypothesis (rule.onOutlines (heard ++ [report])) ticket (heard ++ [report])
      rw [List.append_assoc, mapped] at same forgotten
      rw [← answered] at same forgotten
      refine ⟨report :: new, count, ?_, tickets, forgotten⟩
      simp only [Recorded.number, BatchRun.transcript]
      rw [← answered]
      exact same

end AssetExchange
