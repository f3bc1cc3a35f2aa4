import AssetExchange.Proofs.Desk.Keeping
import AssetExchange.Proofs.Desk.Ledger

/-!
# Who holds which pager

A desk holds pagers and walks, and each of them stands for one pager of one manager.  The
ledger of a desk lists these, together with those that an operation under way has in its
hand.  What each operation with pagers does to the ledger is told by one lemma each, and
`Desk.acts_run` sums them up.
-/

namespace AssetExchange

variable {sigma pi : Type} {plugin : Plugin sigma pi}

/-- The pager that is held: the place of its manager with its ticket. -/
def Held.key (held : Held (Ticketed pi)) : Nat × Nat :=
  (held.owner, held.item.ticket)

/-- The pager that a walk holds. -/
def Held.walkKey (held : Held (Pages (Ticketed pi))) : Nat × Nat :=
  (held.owner, held.item.pager.ticket)

namespace Desk

open Ledger

/-- Which pagers a desk keeps under which names, as pagers and in walks. -/
def keys (desk : Desk (Recorded sigma) (Ticketed pi)) :
    Dictionary (Nat × Nat) × Dictionary (Nat × Nat) :=
  (desk.pagers.map Held.key, desk.walks.map Held.walkKey)

/-- The pagers that a desk holds, as pagers or in walks. -/
def holdings (desk : Desk (Recorded sigma) (Ticketed pi)) : List (Nat × Nat) :=
  desk.pagers.values.map Held.key ++ desk.walks.values.map Held.walkKey

/-- The ledger of a desk while an operation has further pagers in its hand. -/
def ledger (hand : List (Nat × Nat)) (desk : Desk (Recorded sigma) (Ticketed pi)) :
    Ledger sigma :=
  ⟨desk.session.managers, hand ++ desk.holdings⟩

variable {desk : Desk (Recorded sigma) (Ticketed pi)} {hand : List (Nat × Nat)}

/-- Only what is held matters, not in which order or where. -/
theorem moves_of_perm {later : Desk (Recorded sigma) (Ticketed pi)}
    {handThen : List (Nat × Nat)} (session : later.session = desk.session)
    (same : (hand ++ desk.holdings).Perm (handThen ++ later.holdings)) :
    Moves plugin (desk.ledger hand) (later.ledger handThen) := by
  unfold ledger
  rw [session]
  exact (Move.reordered same).one

theorem moves_close (plugin : Plugin sigma pi) (held : Held (Ticketed pi))
    (desk : Desk (Recorded sigma) (Ticketed pi)) (hand : List (Nat × Nat)) :
    Moves plugin (desk.ledger (held.key :: hand))
      ((close plugin.recorded held desk).state.ledger hand) := by
  cases there : desk.session.managers[held.owner]? with
  | none =>
      rw [close, ask_of_absent there]
      exact (Move.lost there).one
  | some manager =>
      rw [close, ask_of_there there]
      exact (Move.closed there held.item.pager).one

theorem moves_closeIfAny (plugin : Plugin sigma pi) (held : Option (Held (Ticketed pi)))
    (desk : Desk (Recorded sigma) (Ticketed pi)) (hand : List (Nat × Nat)) :
    Moves plugin (desk.ledger ((held.map Held.key).toList ++ hand))
      ((closeIfAny plugin.recorded held desk).state.ledger hand) := by
  cases held with
  | none =>
      exact Moves.none _
  | some held =>
      exact moves_close plugin held desk hand

/-- A pager that is kept takes the place of another one, which is closed. -/
theorem moves_keepPager (plugin : Plugin sigma pi) (name : String) (held : Held (Ticketed pi))
    (desk : Desk (Recorded sigma) (Ticketed pi)) (hand : List (Nat × Nat)) :
    Moves plugin (desk.ledger (held.key :: hand))
      ((keepPager plugin.recorded name held desk).state.ledger hand) := by
  have exchanged : Moves plugin (desk.ledger (held.key :: hand))
      (Desk.ledger (((desk.pagers.get? name).map Held.key).toList ++ hand)
        { desk with pagers := desk.pagers.insert name held }) := by
    apply moves_of_perm
    · rfl
    · exact perm_exchange (desk.pagers.values_exchange_perm Held.key name held) hand _
  exact exchanged.andThen (moves_closeIfAny plugin _ _ hand)

theorem moves_keepWalk (plugin : Plugin sigma pi) (name : String)
    (walk : Held (Pages (Ticketed pi))) (desk : Desk (Recorded sigma) (Ticketed pi))
    (hand : List (Nat × Nat)) :
    Moves plugin (desk.ledger (walk.walkKey :: hand))
      ((keepWalk plugin.recorded name walk desk).state.ledger hand) := by
  have exchanged : Moves plugin (desk.ledger (walk.walkKey :: hand))
      (Desk.ledger (((desk.walks.get? name).map Held.walkKey).toList ++ hand)
        { desk with walks := desk.walks.insert name walk }) := by
    apply moves_of_perm
    · rfl
    · have exchange := desk.walks.values_exchange_perm Held.walkKey name walk
      have same := perm_exchange exchange hand (desk.pagers.values.map Held.key)
      apply (List.perm_append_comm.append_left _).trans
      exact same.trans (List.perm_append_comm.append_left _)
  have closed := moves_closeIfAny plugin
    ((desk.walks.get? name).map fun held => ⟨held.owner, held.item.pager⟩)
    { desk with walks := desk.walks.insert name walk } hand
  rw [Option.map_map] at closed
  exact exchanged.andThen closed

/-- The requests of one operation to a pager that is held. -/
theorem moves_ask {place ticket : Nat} {manager : Manager (Recorded sigma)}
    (there : desk.session.managers[place]? = some manager)
    (holds : (place, ticket) ∈ hand ++ desk.holdings) {later : Recorded sigma}
    (asked : Recorded.Asked plugin ticket manager.state later) :
    Moves plugin (desk.ledger hand)
      ((desk.setManager place (manager.hold later)).ledger hand) :=
  moves_of_asked there holds asked

theorem key_mem_holdings {name : String} {held : Held (Ticketed pi)}
    (found : desk.pagers.get? name = some held) : held.key ∈ desk.holdings := by
  have split := (Dictionary.values_replace_perm found).map Held.key
  apply List.mem_append_left
  exact split.mem_iff.2 List.mem_cons_self

theorem walkKey_mem_holdings {name : String} {walk : Held (Pages (Ticketed pi))}
    (found : desk.walks.get? name = some walk) : walk.walkKey ∈ desk.holdings := by
  have split := (Dictionary.values_replace_perm found).map Held.walkKey
  apply List.mem_append_right
  exact split.mem_iff.2 List.mem_cons_self

theorem holdings_eq_of_keys {later : Desk (Recorded sigma) (Ticketed pi)}
    (same : later.keys = desk.keys) : later.holdings = desk.holdings := by
  obtain ⟨pagers, walks⟩ := Prod.mk.inj same
  simp only [holdings, ← Dictionary.values_map, pagers, walks]

theorem keys_insert_pager {name : String} {held later : Held (Ticketed pi)}
    (found : desk.pagers.get? name = some held) (same : later.key = held.key) :
    keys { desk with pagers := desk.pagers.insert name later } = desk.keys := by
  have bound : (desk.pagers.map Held.key).get? name = some later.key := by
    rw [Dictionary.get?_map, found, same]
    rfl
  simp only [keys, Dictionary.map_insert, Dictionary.insert_of_bound bound]

theorem keys_insert_walk {name : String} {walk later : Held (Pages (Ticketed pi))}
    (found : desk.walks.get? name = some walk) (same : later.walkKey = walk.walkKey) :
    keys { desk with walks := desk.walks.insert name later } = desk.keys := by
  have bound : (desk.walks.map Held.walkKey).get? name = some later.walkKey := by
    rw [Dictionary.get?_map, found, same]
    rfl
  simp only [keys, Dictionary.map_insert, Dictionary.insert_of_bound bound]

/-- A pager leaves its name and is in the hand. -/
theorem moves_take {name : String} {held : Held (Ticketed pi)}
    (found : desk.pagers.get? name = some held) (hand : List (Nat × Nat)) :
    Moves plugin (desk.ledger hand)
      (Desk.ledger (held.key :: hand) { desk with pagers := desk.pagers.erase name }) := by
  have split : desk.holdings.Perm
      (held.key :: holdings { desk with pagers := desk.pagers.erase name }) :=
    ((Dictionary.values_replace_perm found).map Held.key).append_right _
  apply moves_of_perm
  · rfl
  · exact (split.append_left hand).trans List.perm_middle

section Asking

variable {kept alpha : Type} {slot : Slot (Recorded sigma) (Ticketed pi) kept}
  {ticketOf : kept → Nat} {request : kept → Request (Recorded sigma) (kept × alpha)}

/-- Who asks a pager and puts it back where it was keeps the same pagers. -/
theorem keys_asking
    (puts : ∀ {desk held} (later : kept), slot.find desk = some held →
      ticketOf later = ticketOf held.item →
        (slot.put ⟨held.owner, later⟩ desk).keys = desk.keys)
    (keeps : ∀ item, Recorded.Keeps plugin (ticketOf item)
      (fun answer : kept × alpha => ticketOf answer.1) (request item))
    (desk : Desk (Recorded sigma) (Ticketed pi)) :
    (asking slot request desk).state.keys = desk.keys := by
  rcases state_asking slot request desk with unchanged | ⟨held, manager, found, _, changed⟩
  · rw [unchanged]
  · rw [changed]
    exact puts _ ((slot.find_session desk _).trans found) (keeps held.item manager.state).2

/-- A request to a pager that stays where it is kept. -/
theorem moves_asking
    (holds : ∀ {desk held}, slot.find desk = some held →
      (held.owner, ticketOf held.item) ∈ desk.holdings)
    (puts : ∀ {desk held} (later : kept), slot.find desk = some held →
      ticketOf later = ticketOf held.item →
        (slot.put ⟨held.owner, later⟩ desk).keys = desk.keys)
    (keeps : ∀ item, Recorded.Keeps plugin (ticketOf item)
      (fun answer : kept × alpha => ticketOf answer.1) (request item))
    (desk : Desk (Recorded sigma) (Ticketed pi)) (hand : List (Nat × Nat)) :
    Moves plugin (desk.ledger hand) ((asking slot request desk).state.ledger hand) := by
  rcases state_asking slot request desk with unchanged | ⟨held, manager, found, there, changed⟩
  · rw [unchanged]
    exact Moves.none _
  · obtain ⟨asked, _⟩ := keeps held.item manager.state
    have requested := moves_ask there (List.mem_append_right hand (holds found)) asked
    have same := keys_asking puts keeps desk
    rw [changed] at same ⊢
    refine requested.andThen (moves_of_perm (slot.session_put _ _) ?_)
    rw [holdings_eq_of_keys same]
    exact List.Perm.refl _

end Asking

section AskingPagers

variable {alpha : Type} {request : Ticketed pi → Request (Recorded sigma) (Ticketed pi × alpha)}

theorem keys_askPager (name : String)
    (keeps : ∀ ticketed : Ticketed pi, Recorded.Keeps plugin ticketed.ticket
      (fun answer : Ticketed pi × alpha => answer.1.ticket) (request ticketed))
    (desk : Desk (Recorded sigma) (Ticketed pi)) :
    (askPager name request desk).state.keys = desk.keys := by
  rw [askPager_eq_asking]
  apply keys_asking _ keeps
  intro desk held later found sameTicket
  exact keys_insert_pager found (congrArg (Prod.mk held.owner) sameTicket)

theorem moves_askPager (name : String)
    (keeps : ∀ ticketed : Ticketed pi, Recorded.Keeps plugin ticketed.ticket
      (fun answer : Ticketed pi × alpha => answer.1.ticket) (request ticketed))
    (desk : Desk (Recorded sigma) (Ticketed pi)) (hand : List (Nat × Nat)) :
    Moves plugin (desk.ledger hand) ((askPager name request desk).state.ledger hand) := by
  rw [askPager_eq_asking]
  apply moves_asking key_mem_holdings _ keeps
  intro desk held later found sameTicket
  exact keys_insert_pager found (congrArg (Prod.mk held.owner) sameTicket)

end AskingPagers

theorem keys_walkOn (plugin : Plugin sigma pi) (name : String)
    (desk : Desk (Recorded sigma) (Ticketed pi)) :
    (walkOn plugin.recorded name desk).state.keys = desk.keys := by
  rw [walkOn_eq_asking]
  apply keys_asking _ (Recorded.keeps_next plugin)
  intro desk walk later found sameTicket
  exact keys_insert_walk found (congrArg (Prod.mk walk.owner) sameTicket)

theorem moves_walkOn (plugin : Plugin sigma pi) (name : String)
    (desk : Desk (Recorded sigma) (Ticketed pi)) (hand : List (Nat × Nat)) :
    Moves plugin (desk.ledger hand)
      ((walkOn plugin.recorded name desk).state.ledger hand) := by
  rw [walkOn_eq_asking]
  apply moves_asking walkKey_mem_holdings _ (Recorded.keeps_next plugin)
  intro desk walk later found sameTicket
  exact keys_insert_walk found (congrArg (Prod.mk walk.owner) sameTicket)

theorem moves_startWalk (plugin : Plugin sigma pi) (name : String)
    (desk : Desk (Recorded sigma) (Ticketed pi)) (hand : List (Nat × Nat)) :
    Moves plugin (desk.ledger hand)
      ((startWalk plugin.recorded name desk).state.ledger hand) := by
  cases found : desk.pagers.get? name with
  | none =>
      simp only [startWalk, found]
      exact Moves.none _
  | some held =>
      simp only [startWalk, found]
      exact (moves_take found hand).andThen
        (moves_keepWalk plugin name ⟨held.owner, Pages.ofPager held.item⟩ _ hand)

/-- The pages of a pager that is in the hand are collected, and it is closed. -/
theorem moves_collect (plugin : Plugin sigma pi) (held : Held (Ticketed pi))
    (desk : Desk (Recorded sigma) (Ticketed pi)) (hand : List (Nat × Nat)) :
    Moves plugin (desk.ledger (held.key :: hand))
      ((collect plugin.recorded held desk).state.ledger hand) := by
  cases there : desk.session.managers[held.owner]? with
  | none =>
      simp only [collect, Reply.bind, ask_of_absent there]
      exact (Move.lost there).one
  | some manager =>
      simp only [collect, Reply.bind, ask_of_there there]
      obtain ⟨asked, sameTicket⟩ :=
        Recorded.keeps_take plugin pageLimit (Pages.ofPager held.item) manager.state
      have holds : (held.owner, held.item.ticket) ∈ (held.key :: hand) ++ desk.holdings :=
        List.mem_cons_self
      have requested := moves_ask there holds asked
      have closed := moves_close plugin ⟨held.owner, (Pages.take plugin.recorded pageLimit
        (Pages.ofPager held.item) manager.state).answer.1.pager⟩
      have sameKey : Held.key ⟨held.owner, (Pages.take plugin.recorded pageLimit
          (Pages.ofPager held.item) manager.state).answer.1.pager⟩ = held.key :=
        congrArg (Prod.mk held.owner) sameTicket
      rw [sameKey] at closed
      exact requested.andThen (closed _ hand)

theorem moves_collectPages (plugin : Plugin sigma pi) (name : String)
    (desk : Desk (Recorded sigma) (Ticketed pi)) (hand : List (Nat × Nat)) :
    Moves plugin (desk.ledger hand)
      ((collectPages plugin.recorded name desk).state.ledger hand) := by
  cases found : desk.pagers.get? name with
  | none =>
      simp only [collectPages, found]
      exact Moves.none _
  | some held =>
      simp only [collectPages, found]
      exact (moves_take found hand).andThen (moves_collect plugin held _ hand)

theorem moves_drop (plugin : Plugin sigma pi) (name : String)
    (desk : Desk (Recorded sigma) (Ticketed pi)) (hand : List (Nat × Nat)) :
    Moves plugin (desk.ledger hand) ((drop plugin.recorded name desk).state.ledger hand) := by
  let pager := desk.pagers.get? name
  let walk := desk.walks.get? name
  let erased : Desk (Recorded sigma) (Ticketed pi) :=
    { desk with pagers := desk.pagers.erase name, walks := desk.walks.erase name }
  have taken : Moves plugin (desk.ledger hand)
      (erased.ledger
        ((pager.map Held.key).toList ++ ((walk.map Held.walkKey).toList ++ hand))) := by
    apply moves_of_perm
    · rfl
    · have pagers := (desk.pagers.values_perm name).map Held.key
      have walks := (desk.walks.values_perm name).map Held.walkKey
      rw [List.perm_iff_count] at pagers walks ⊢
      intro key
      have pagersCount := pagers key
      have walksCount := walks key
      simp only [holdings, List.map_append, List.count_append, ← Option.toList_map]
        at pagersCount walksCount ⊢
      simp only [pager, walk, erased]
      omega
  have first := moves_closeIfAny plugin pager erased ((walk.map Held.walkKey).toList ++ hand)
  have second := moves_closeIfAny plugin
    (walk.map fun held => (⟨held.owner, held.item.pager⟩ : Held (Ticketed pi)))
    (closeIfAny plugin.recorded pager erased).state hand
  rw [Option.map_map] at second
  exact taken.andThen (first.andThen second)

/-! ### Queries -/

/-- The pagers that were reported by the manager at a place. -/
def delivered (place : Nat) (reports : List (Report (Ticketed pi))) : List (Nat × Nat) :=
  (ticketsOf reports).map fun ticket => (place, ticket)

theorem moves_keepReported (plugin : Plugin sigma pi) (place : Nat) (name : String)
    (reports : List (Report (Ticketed pi))) (desk : Desk (Recorded sigma) (Ticketed pi))
    (hand : List (Nat × Nat)) :
    Moves plugin (desk.ledger (delivered place reports ++ hand))
      ((keepReported plugin.recorded place name reports desk).state.ledger hand) := by
  induction reports generalizing desk with
  | nil =>
      exact Moves.none _
  | cons report rest inductionHypothesis =>
      obtain ⟨index, error | ticketed⟩ := report
      · exact inductionHypothesis desk
      · have kept := moves_keepPager plugin (pagerName name index) ⟨place, ticketed⟩ desk
          (delivered place rest ++ hand)
        exact kept.andThen (inductionHypothesis _)

theorem length_reportedNames (name : String) (reports : List (Report (Ticketed pi))) :
    (reportedNames name reports).length = (ticketsOf reports).length := by
  induction reports with
  | nil =>
      rfl
  | cons report rest inductionHypothesis =>
      obtain ⟨index, error | ticketed⟩ := report
      · exact inductionHypothesis
      · exact congrArg (· + 1) inductionHypothesis

/-- What is heard of a query through the host's view. -/
theorem transcript_guarded (check : Option Fault) (rule : AnswerRule)
    (request : BatchRequest sigma pi) (manager : Manager (Recorded sigma)) :
    let heard := (Manager.guarded check (Recorded.numbered request) manager).transcript
      rule.onOutlines []
    (heard.1 = [] ∧ heard.2.state = manager) ∨
      ∃ count, ticketsOf heard.1 = List.range' manager.state.delivered count ∧
        heard.2.state = manager.hold
          ⟨((request manager.state.state).transcript rule.onOutlines []).2.state,
            manager.state.delivered + count, manager.state.record⟩ := by
  intro heard
  cases check with
  | some fault =>
      exact Or.inl ⟨rfl, rfl⟩
  | none =>
      obtain ⟨new, count, same, tickets, _⟩ := transcript_number rule manager.state
        (request manager.state.state) manager.state.delivered []
      have passed : heard = _ := BatchRun.transcript_mapResult _ rule.onOutlines
        (Recorded.numbered request manager.state) []
      have numbered : (Recorded.numbered request manager.state).transcript rule.onOutlines [] =
          _ := same
      rw [numbered] at passed
      refine Or.inr ⟨count, ?_, ?_⟩
      · rw [passed]
        exact tickets
      · rw [passed]
        rfl

/-- A query delivers the pagers that it reports, and they are kept. -/
theorem acts_listeningForPagers (plugin : Plugin sigma pi) (query : PagerQuery)
    (check : Option Fault) (place : Nat) (rule : AnswerRule) (name : String)
    (desk : Desk (Recorded sigma) (Ticketed pi)) :
    let reply := listeningForPagers plugin.recorded place rule name
      (Manager.guarded check (Recorded.numbered (query.make plugin))) desk
    Acts plugin place reply.answer.pagersReported (desk.ledger []) (reply.state.ledger []) := by
  cases there : desk.session.managers[place]? with
  | none =>
      simp only [listeningForPagers, listen, ask_of_absent there, Reply.bind]
      exact (Moves.none _).acts place
  | some manager =>
      have heard := transcript_guarded check rule (query.make plugin) manager
      obtain ⟨answer, state⟩ := listeningForPagers_of_there plugin.recorded there rule name
        (Manager.guarded check (Recorded.numbered (query.make plugin)))
      dsimp only at answer state heard ⊢
      rw [answer, state]
      generalize (Manager.guarded check (Recorded.numbered (query.make plugin))
        manager).transcript rule.onOutlines [] = transcript at heard ⊢
      obtain ⟨reports, reply⟩ := transcript
      have kept := moves_keepReported plugin place name reports
        (desk.setManager place reply.state) []
      rw [Answer.pagersReported, pagerNames_shownPagers, length_reportedNames]
      rcases heard with ⟨nothing, same⟩ | ⟨count, tickets, same⟩
      · dsimp only at nothing same
        rw [nothing, same, setManager, set_of_getElem? there]
        exact (Moves.none _).acts place
      · dsimp only at tickets same
        rw [delivered, tickets, same, List.append_nil] at kept
        rw [tickets, same, List.length_range']
        have delivers : Delivers plugin place count (desk.ledger []) _ :=
          Delivers.pagers there query rule count
        exact ⟨_, delivers, kept⟩

/-! ### Steps and runs -/

theorem make_recorded (plugin : Plugin sigma pi) (query : PagerQuery) :
    query.make plugin.recorded = Recorded.numbered (query.make plugin) := by
  cases query <;> rfl

theorem pagersReported_map {alpha : Type} {read : alpha → Answer}
    (none : ∀ value, (read value).pagersReported = 0) (outcome : Outcome alpha) :
    (Answer.ofOutcome read outcome).pagersReported = 0 := by
  cases outcome with
  | ok value =>
      exact none value
  | error error =>
      rfl

theorem pagersReported_orMissing {alpha : Type} {read : alpha → Answer}
    (none : ∀ value, (read value).pagersReported = 0) (found : Option alpha) :
    (orMissing read found).pagersReported = 0 := by
  cases found with
  | some value =>
      exact none value
  | none =>
      rfl

theorem moves_use (plugin : Plugin sigma pi) (place : Nat) (name : String) (kind : PagerUse)
    (desk : Desk (Recorded sigma) (Ticketed pi)) :
    let reply := perform plugin.recorded place (kind.on name) desk
    Moves plugin (desk.ledger []) (reply.state.ledger []) ∧
      reply.answer.pagersReported = 0 := by
  cases kind with
  | hasNext =>
      exact ⟨moves_askPager name (Recorded.keeps_pagerHasNext plugin) desk [],
        pagersReported_orMissing (pagersReported_map fun _ => rfl) _⟩
  | get =>
      exact ⟨moves_askPager name (Recorded.keeps_pagerGet plugin) desk [],
        pagersReported_orMissing (pagersReported_map fun _ => rfl) _⟩
  | next =>
      exact ⟨moves_askPager name (Recorded.keeps_pagerNext plugin) desk [],
        pagersReported_orMissing (pagersReported_map fun _ => rfl) _⟩
  | describe =>
      exact ⟨Moves.none _, pagersReported_orMissing (fun _ => rfl) _⟩
  | pages =>
      exact ⟨moves_collectPages plugin name desk [],
        pagersReported_orMissing (fun _ => rfl) _⟩
  | intoPages =>
      exact ⟨moves_startWalk plugin name desk [],
        pagersReported_orMissing (fun _ => rfl) _⟩
  | nextPage =>
      exact ⟨moves_walkOn plugin name desk [], pagersReported_orMissing (fun _ => rfl) _⟩
  | drop =>
      exact ⟨moves_drop plugin name desk [], rfl⟩

/-- What a step does to the ledger of a desk: it delivers the pagers that its answer
reports, and then makes moves. -/
theorem acts_runStep (plugin : Plugin sigma pi) (step : PagingStep)
    (desk : Desk (Recorded sigma) (Ticketed pi)) :
    let stepped := runStep plugin.recorded step desk
    Acts plugin step.place stepped.1.pagersReported (desk.ledger [])
      (stepped.2.ledger []) := by
  rcases step with ⟨place, ⟨rule, name, query⟩ | ⟨name, kind⟩⟩
  · have acts := acts_listeningForPagers plugin query (Manager.checkPageSize query.pageSize)
      place rule name desk
    rw [← make_recorded, ← PagerQuery.performBatch_keeping] at acts
    exact acts
  · obtain ⟨moves, none⟩ := moves_use plugin place name kind desk
    have acts := moves.acts place
    rw [← none] at acts
    exact acts

end Desk

end AssetExchange
