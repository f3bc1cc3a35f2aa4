import AssetExchange.Proofs.Desk.Tally

/-!
# What a host possesses

Which pagers a host holds can be told from what it does and what it is answered, without a
look at its desk (`Possession.after`): a query brings the pagers that it reports, each under
its name, and a pager leaves when it is dropped, when its pages are collected, when it is
dropped as a walk, or when another one takes its name.

A desk whose managers keep a record of their pagers holds just these pagers
(`Desk.possession_runAll`), since each operation does to the desk what it does to the
possession of the host (`Desk.possession_runStep`).
-/

namespace AssetExchange

/-- The pagers of a host.  A pager is the place of its manager with the number of the pagers
that this manager had delivered before it. -/
@[ext] structure Possession where
  pagers : Dictionary (Nat × Nat)
  walks : Dictionary (Nat × Nat)
  delivered : Nat → Nat

namespace Possession

def nothing : Possession :=
  ⟨.empty, .empty, fun _ => 0⟩

def receive (place : Nat) (name : String) (possession : Possession) : Possession where
  pagers := possession.pagers.insert name (place, possession.delivered place)
  walks := possession.walks
  delivered := fun other => possession.delivered other + if place = other then 1 else 0

def receiveAll (place : Nat) (names : List String) (possession : Possession) : Possession :=
  names.foldl (fun held name => held.receive place name) possession

/-- What a host still possesses after the use of what it keeps under a name. -/
def use (name : String) (possession : Possession) : PagerUse → Possession
  | .hasNext | .get | .next | .describe | .nextPage => possession
  | .pages => { possession with pagers := possession.pagers.erase name }
  | .intoPages =>
      match possession.pagers.get? name with
      | none => possession
      | some key =>
          { possession with
            pagers := possession.pagers.erase name
            walks := possession.walks.insert name key }
  | .drop =>
      { possession with
        pagers := possession.pagers.erase name
        walks := possession.walks.erase name }

def step (possession : Possession) (step : PagingStep) (answer : Answer) : Possession :=
  match step.operation with
  | .query _ _ _ => possession.receiveAll step.place answer.pagerNames
  | .use name kind => possession.use name kind

/-- What a host possesses after steps with their answers, when it began with nothing. -/
def after (steps : List PagingStep) (answers : List Answer) : Possession :=
  (steps.zip answers).foldl (fun possession entry => possession.step entry.1 entry.2) nothing

def held (possession : Possession) : List (Nat × Nat) :=
  possession.pagers.values ++ possession.walks.values

theorem delivered_receive_self (possession : Possession) (place : Nat) (name : String) :
    (possession.receive place name).delivered place = possession.delivered place + 1 := by
  simp [receive]

theorem receiveAll_cons (place : Nat) (name : String) (names : List String)
    (possession : Possession) :
    possession.receiveAll place (name :: names) =
      (possession.receive place name).receiveAll place names :=
  rfl

theorem walks_receiveAll (place : Nat) (names : List String) (possession : Possession) :
    (possession.receiveAll place names).walks = possession.walks := by
  induction names generalizing possession with
  | nil =>
      rfl
  | cons name names inductionHypothesis =>
      exact inductionHypothesis (possession.receive place name)

theorem delivered_receiveAll (place : Nat) (names : List String) (possession : Possession)
    (other : Nat) :
    (possession.receiveAll place names).delivered other =
      possession.delivered other + if place = other then names.length else 0 := by
  induction names generalizing possession with
  | nil =>
      simp [receiveAll]
  | cons name names inductionHypothesis =>
      rw [receiveAll_cons, inductionHypothesis, receive]
      by_cases same : place = other
      · simp only [if_pos same, List.length_cons]
        omega
      · simp only [if_neg same, Nat.add_zero]

theorem delivered_use (name : String) (kind : PagerUse) (possession : Possession) :
    (possession.use name kind).delivered = possession.delivered := by
  cases kind with
  | intoPages =>
      simp only [use]
      cases possession.pagers.get? name <;> rfl
  | _ =>
      rfl

end Possession

variable {sigma pi : Type} {plugin : Plugin sigma pi}

namespace Ledger

variable {first second : Ledger sigma} {place count : Nat}

def deliveredAt (ledger : Ledger sigma) (place : Nat) : Nat :=
  (tally (fun state _ => state.delivered) ledger place).getD 0

theorem Delivers.eq_zero (delivers : Delivers plugin place count first second)
    (absent : first.managers[place]? = none) : count = 0 := by
  cases delivers with
  | nothing =>
      rfl
  | pagers there =>
      rw [there] at absent
      cases absent

theorem deliveredAt_acts (acts : Acts plugin place count first second) (other : Nat) :
    second.deliveredAt other = first.deliveredAt other + if place = other then count else 0 := by
  unfold deliveredAt
  rw [tally_acts (tallied_delivered plugin) acts]
  cases there : first.managers[other]? with
  | none =>
      obtain ⟨middle, delivers, _⟩ := acts
      have nobody : (if place = other then count else 0) = 0 := by
        by_cases same : place = other
        · rw [if_pos same]
          exact delivers.eq_zero (same ▸ there)
        · rw [if_neg same]
      simp only [tally, there, nobody]
      rfl
  | some manager =>
      simp only [tally, there]
      rfl

end Ledger

namespace Desk

variable {desk : Desk (Recorded sigma) (Ticketed pi)}

/-- What a host possesses who has the desk. -/
def possession (desk : Desk (Recorded sigma) (Ticketed pi)) : Possession :=
  ⟨desk.keys.1, desk.keys.2, (desk.ledger []).deliveredAt⟩

theorem holdings_eq_held (desk : Desk (Recorded sigma) (Ticketed pi)) :
    desk.holdings = desk.possession.held := by
  simp only [holdings, Possession.held, possession, keys, Dictionary.values_map]

theorem keys_of_kept {pagers : Dictionary (Held (Ticketed pi))}
    {walks : Dictionary (Held (Pages (Ticketed pi)))} (same : desk.kept = (pagers, walks)) :
    desk.keys = (pagers.map Held.key, walks.map Held.walkKey) := by
  obtain ⟨samePagers, sameWalks⟩ := Prod.mk.inj same
  rw [keys, samePagers, sameWalks]

/-! ## Uses -/

theorem keys_startWalk (plugin : Plugin sigma pi) (name : String)
    (desk : Desk (Recorded sigma) (Ticketed pi)) :
    (startWalk plugin.recorded name desk).state.keys =
      ((desk.possession.use name .intoPages).pagers,
        (desk.possession.use name .intoPages).walks) := by
  have kept := kept_startWalk plugin.recorded name desk
  have found : desk.possession.pagers.get? name = (desk.pagers.get? name).map Held.key :=
    desk.pagers.get?_map Held.key name
  rw [Possession.use, found]
  cases held : desk.pagers.get? name with
  | none =>
      rw [held] at kept
      exact keys_of_kept kept
  | some pager =>
      rw [held] at kept
      dsimp only at kept
      rw [keys_of_kept kept, Dictionary.map_erase, Dictionary.map_insert]
      rfl

theorem keys_use (plugin : Plugin sigma pi) (place : Nat) (name : String) (kind : PagerUse)
    (desk : Desk (Recorded sigma) (Ticketed pi)) :
    (perform plugin.recorded place (kind.on name) desk).state.keys =
      ((desk.possession.use name kind).pagers, (desk.possession.use name kind).walks) := by
  cases kind with
  | hasNext =>
      exact keys_askPager name (Recorded.keeps_pagerHasNext plugin) desk
  | get =>
      exact keys_askPager name (Recorded.keeps_pagerGet plugin) desk
  | next =>
      exact keys_askPager name (Recorded.keeps_pagerNext plugin) desk
  | describe =>
      rfl
  | pages =>
      have kept := keys_of_kept (kept_collectPages plugin.recorded name desk)
      rw [Dictionary.map_erase] at kept
      exact kept
  | intoPages =>
      exact keys_startWalk plugin name desk
  | nextPage =>
      exact keys_walkOn plugin name desk
  | drop =>
      have kept := keys_of_kept (kept_drop plugin.recorded name desk)
      rw [Dictionary.map_erase, Dictionary.map_erase] at kept
      exact kept

/-! ## Queries -/

/-- Pagers with the next tickets are those that a host receives next. -/
theorem pagers_receiveAll (place : Nat) (name : String) (reports : List (Report (Ticketed pi)))
    {count : Nat} {possession : Possession} {pagers : Dictionary (Held (Ticketed pi))}
    (tickets : ticketsOf reports = List.range' (possession.delivered place) count)
    (same : possession.pagers = pagers.map Held.key) :
    (possession.receiveAll place (reportedNames name reports)).pagers =
      (insertReported place name reports pagers).map Held.key := by
  induction reports generalizing count possession pagers with
  | nil =>
      exact same
  | cons report rest inductionHypothesis =>
      obtain ⟨index, error | ticketed⟩ := report
      · exact inductionHypothesis tickets same
      · cases count with
        | zero =>
            cases tickets
        | succ count =>
            rw [List.range'_succ] at tickets
            obtain ⟨ticket, later⟩ := List.cons.inj tickets
            rw [reportedNames, Possession.receiveAll_cons]
            rw [← possession.delivered_receive_self place (pagerName name index)] at later
            apply inductionHypothesis later
            rw [Possession.receive, Dictionary.map_insert, same, ← ticket]
            rfl

theorem keys_listeningForPagers (plugin : Plugin sigma pi) (check : Option Fault) (place : Nat)
    (rule : AnswerRule) (name : String) (request : BatchRequest sigma pi)
    (desk : Desk (Recorded sigma) (Ticketed pi)) :
    let reply := listeningForPagers plugin.recorded place rule name
      (Manager.guarded check (Recorded.numbered request)) desk
    reply.state.keys =
      ((desk.possession.receiveAll place reply.answer.pagerNames).pagers,
        (desk.possession.receiveAll place reply.answer.pagerNames).walks) := by
  cases there : desk.session.managers[place]? with
  | none =>
      simp only [listeningForPagers, listen, ask_of_absent there, Reply.bind]
      rfl
  | some manager =>
      have heard := transcript_guarded check rule request manager
      obtain ⟨answer, state⟩ := listeningForPagers_of_there plugin.recorded there rule name
        (Manager.guarded check (Recorded.numbered request))
      dsimp only at answer state heard ⊢
      rw [answer, state, pagerNames_shownPagers, Possession.walks_receiveAll]
      generalize (Manager.guarded check (Recorded.numbered request) manager).transcript
        rule.onOutlines [] = transcript at heard ⊢
      obtain ⟨reports, reply⟩ := transcript
      have next : ∃ count, ticketsOf reports =
          List.range' (desk.possession.delivered place) count := by
        have delivered : desk.possession.delivered place = manager.state.delivered := by
          simp only [possession, Ledger.deliveredAt, Ledger.tally, ledger, there]
          rfl
        rw [delivered]
        rcases heard with ⟨nothing, _⟩ | ⟨count, tickets, _⟩
        · exact ⟨0, congrArg ticketsOf nothing⟩
        · exact ⟨count, tickets⟩
      obtain ⟨count, tickets⟩ := next
      rw [keys_of_kept (kept_keepReported plugin.recorded place name reports _)]
      exact congrArg₂ Prod.mk (pagers_receiveAll place name reports tickets rfl).symm rfl

/-! ## Steps and runs -/

theorem keys_runStep (plugin : Plugin sigma pi) (step : PagingStep)
    (desk : Desk (Recorded sigma) (Ticketed pi)) :
    let stepped := runStep plugin.recorded step desk
    stepped.2.keys = ((desk.possession.step step stepped.1).pagers,
      (desk.possession.step step stepped.1).walks) := by
  rcases step with ⟨place, ⟨rule, name, query⟩ | ⟨name, kind⟩⟩
  · have same := keys_listeningForPagers plugin (Manager.checkPageSize query.pageSize) place
      rule name (query.make plugin) desk
    rw [← make_recorded, ← PagerQuery.performBatch_keeping] at same
    exact same
  · exact keys_use plugin place name kind desk

theorem delivered_step (plugin : Plugin sigma pi) (step : PagingStep)
    (desk : Desk (Recorded sigma) (Ticketed pi)) (other : Nat) :
    let stepped := runStep plugin.recorded step desk
    (desk.possession.step step stepped.1).delivered other =
      desk.possession.delivered other +
        if step.place = other then stepped.1.pagersReported else 0 := by
  rcases step with ⟨place, ⟨rule, name, query⟩ | ⟨name, kind⟩⟩
  · exact Possession.delivered_receiveAll place _ _ other
  · have none := (moves_use plugin place name kind desk).2
    change ((desk.possession.use name kind).delivered other) = _ + if place = other then
      (perform plugin.recorded place (kind.on name) desk).answer.pagersReported else 0
    rw [Possession.delivered_use, none, ite_self, Nat.add_zero]

/-- A step does to a desk what it does to the possession of the host. -/
theorem possession_runStep (plugin : Plugin sigma pi) (step : PagingStep)
    (desk : Desk (Recorded sigma) (Ticketed pi)) :
    let stepped := runStep plugin.recorded step desk
    stepped.2.possession = desk.possession.step step stepped.1 := by
  intro stepped
  obtain ⟨pagers, walks⟩ := Prod.mk.inj (keys_runStep plugin step desk)
  apply Possession.ext
  · exact pagers
  · exact walks
  · funext other
    rw [delivered_step plugin step desk other]
    exact Ledger.deliveredAt_acts (acts_runStep plugin step desk) other

theorem possession_runAll (plugin : Plugin sigma pi) (steps : List PagingStep)
    (desk : Desk (Recorded sigma) (Ticketed pi)) :
    let run := runAll plugin.recorded steps desk
    run.2.possession = (steps.zip run.1).foldl
      (fun possession entry => possession.step entry.1 entry.2) desk.possession := by
  induction steps generalizing desk with
  | nil =>
      rfl
  | cons step rest inductionHypothesis =>
      have later := inductionHypothesis (runStep plugin.recorded step desk).2
      rw [possession_runStep] at later
      exact later

end Desk
end AssetExchange
