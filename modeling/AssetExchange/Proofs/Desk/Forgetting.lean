import AssetExchange.Proofs.Desk.Custody

/-!
# Recording changes nothing

A desk whose managers keep a record of their pagers is the desk that it is without the
records: to forget them after an operation is to forget them before it
(`Desk.runAll_forget`), and the answers are the same.

Requests that agree in this sense (`Request.Projects`) compose, so that it is enough to
look at the requests of which the operations are made.
-/

namespace AssetExchange

variable {sigma tau pi alpha beta gamma delta : Type}

/-! ## Requests that agree -/

/-- The second request does to the projection of a state what the first one does to the
state. -/
def Request.Projects (project : sigma → tau) (change : alpha → beta)
    (whole : Request sigma alpha) (part : Request tau beta) : Prop :=
  ∀ state, part (project state) = ((whole state).mapState project).map change

namespace Request.Projects

variable {project : sigma → tau} {change : alpha → beta} {further : gamma → delta}

theorem answer (value : alpha) :
    Projects project change (Request.answer value) (Request.answer (change value)) :=
  fun _ => rfl

theorem map {whole : Request sigma alpha} {part : Request tau beta}
    (projects : Projects project change whole part) {read : alpha → gamma}
    {readPart : beta → delta} (same : ∀ value, readPart (change value) = further (read value)) :
    Projects project further (fun state => (whole state).map read)
      (fun state => (part state).map readPart) := by
  intro state
  have agree := projects state
  dsimp only
  rw [agree]
  simp only [Reply.map, Reply.mapState, same]

theorem bind {whole : Request sigma alpha} {part : Request tau beta}
    (projects : Projects project change whole part)
    {next : alpha → Request sigma gamma} {nextPart : beta → Request tau delta}
    (after : ∀ value, Projects project further (next value) (nextPart (change value))) :
    Projects project further (fun state => (whole state).bind next)
      (fun state => (part state).bind nextPart) := by
  intro state
  have agree := projects state
  have agreeAfter := after (whole state).answer (whole state).state
  dsimp only
  rw [agree]
  simp only [Reply.bind, Reply.map, Reply.mapState] at agreeAfter ⊢
  rw [agreeAfter]

end Request.Projects

open Request (Projects)

/-! ## Walks -/

def Pages.forget (walk : Pages (Ticketed pi)) : Pages pi :=
  ⟨walk.pager.pager, walk.started, walk.finished⟩

section Walks

variable (plugin : Plugin sigma pi)

theorem projects_noting (call : PagerCall) (request : pi → Request sigma (pi × alpha))
    (ticketed : Ticketed pi) :
    Projects Recorded.state (fun answer : Ticketed pi × alpha => (answer.1.pager, answer.2))
      (Recorded.noting call request ticketed) (request ticketed.pager) :=
  fun _ => rfl

theorem projects_fetch (ticketed : Ticketed pi) :
    Projects Recorded.state
      (fun answer : Pages (Ticketed pi) × Option (Outcome (List EntityReference)) =>
        (answer.1.forget, answer.2))
      (Pages.fetch plugin.recorded ticketed) (Pages.fetch plugin ticketed.pager) := by
  apply (projects_noting .get plugin.pagerGet ticketed).map
  rintro ⟨after, error | _ | page⟩ <;> rfl

theorem projects_next (walk : Pages (Ticketed pi)) :
    Projects Recorded.state
      (fun answer : Pages (Ticketed pi) × Option (Outcome (List EntityReference)) =>
        (answer.1.forget, answer.2))
      (Pages.next plugin.recorded walk) (Pages.next plugin walk.forget) := by
  obtain ⟨ticketed, started, finished⟩ := walk
  cases finished with
  | true =>
      exact Projects.answer _
  | false =>
      cases started with
      | false =>
          exact projects_fetch plugin ticketed
      | true =>
          simp only [Pages.next, Pages.forget, Bool.false_eq_true, ↓reduceIte]
          apply (projects_noting .hasNext plugin.pagerHasNext ticketed).bind
          rintro ⟨asked, error | _ | _⟩
          · exact fun _ => rfl
          · exact fun _ => rfl
          · apply (projects_noting .next plugin.pagerNext asked).bind
            rintro ⟨moved, error | _⟩
            · exact fun _ => rfl
            · exact projects_fetch plugin moved

theorem projects_take (limit : Nat) (walk : Pages (Ticketed pi)) :
    Projects Recorded.state
      (fun answer : Pages (Ticketed pi) × List (Outcome (List EntityReference)) =>
        (answer.1.forget, answer.2))
      (Pages.take plugin.recorded limit walk) (Pages.take plugin limit walk.forget) := by
  induction limit generalizing walk with
  | zero =>
      exact Projects.answer _
  | succ limit inductionHypothesis =>
      unfold Pages.take
      apply (projects_next plugin walk).bind
      rintro ⟨after, item | item⟩
      · exact fun _ => rfl
      · exact (inductionHypothesis after).map fun _ => rfl

end Walks

/-! ## Sessions -/

def Factory.mapStates (change : sigma → tau) (factory : Factory sigma) : Factory tau where
  identifiers := factory.identifiers
  isRegistered := factory.isRegistered
  instantiate := fun identifier => (factory.instantiate identifier).map change

def Manager.mapState (change : sigma → tau) (manager : Manager sigma) : Manager tau :=
  manager.hold (change manager.state)

def Session.mapStates (change : sigma → tau) (session : Session sigma) : Session tau :=
  ⟨session.host, session.factory.mapStates change, session.selection, session.current,
    session.managers.map (Manager.mapState change)⟩

/-- The session with managers that keep a record of their pagers from now on. -/
def Session.watched (session : Session sigma) : Session (Recorded sigma) :=
  session.mapStates Recorded.fresh

theorem Session.mapStates_watched (session : Session sigma) :
    session.watched.mapStates Recorded.state = session := by
  obtain ⟨host, ⟨identifiers, isRegistered, instantiate⟩, selection, current, managers⟩ :=
    session
  have sameManagers :
      (managers.map (Manager.mapState Recorded.fresh)).map (Manager.mapState Recorded.state) =
        managers := by
    rw [List.map_map]
    exact List.map_id managers
  have sameInstantiate : (fun identifier =>
      ((instantiate identifier).map Recorded.fresh).map Recorded.state) = instantiate := by
    funext identifier
    cases instantiate identifier <;> rfl
  simp only [watched, mapStates, Factory.mapStates, sameManagers, sameInstantiate]

/-! ## Desks -/

def Held.forget (held : Held (Ticketed pi)) : Held pi :=
  ⟨held.owner, held.item.pager⟩

def Held.forgetWalk (held : Held (Pages (Ticketed pi))) : Held (Pages pi) :=
  ⟨held.owner, held.item.forget⟩

namespace Desk

def forget (desk : Desk (Recorded sigma) (Ticketed pi)) : Desk sigma pi where
  session := desk.session.mapStates Recorded.state
  contexts := desk.contexts
  pagers := desk.pagers.map Held.forget
  walks := desk.walks.map Held.forgetWalk
  log := desk.log

theorem projects_ask (place : Nat) {change : alpha → beta}
    {whole : Request (Manager (Recorded sigma)) alpha} {part : Request (Manager sigma) beta}
    (projects : Projects (Manager.mapState Recorded.state) change whole part) :
    Projects (forget : Desk (Recorded sigma) (Ticketed pi) → Desk sigma pi) (Option.map change)
      (ask place whole) (ask place part) := by
  intro desk
  cases there : desk.session.managers[place]? with
  | none =>
      have thereThen : desk.forget.session.managers[place]? = none := by
        simp [forget, Session.mapStates, there]
      rw [ask_of_absent there, ask_of_absent thereThen]
      rfl
  | some manager =>
      have thereThen : desk.forget.session.managers[place]? =
          some (manager.mapState Recorded.state) := by
        simp [forget, Session.mapStates, there]
      rw [ask_of_there there, ask_of_there thereThen, projects manager]
      simp only [forget, setManager, Session.mapStates, Reply.mapState, Reply.map,
        List.map_set, Option.map_some]

theorem projects_pass {change : alpha → beta} {whole : Request (Recorded sigma) alpha}
    {part : Request sigma beta} (projects : Projects Recorded.state change whole part) :
    Projects (Manager.mapState Recorded.state) change (Manager.pass whole)
      (Manager.pass part) := by
  intro manager
  have agree := projects manager.state
  simp only [Manager.pass, Manager.mapState, Manager.hold, Reply.mapState, Reply.map] at agree ⊢
  rw [agree]

/-! ### Pagers and walks -/

section Keeping

variable (plugin : Plugin sigma pi) (name : String)

theorem projects_close (held : Held (Ticketed pi)) :
    Projects forget id (close plugin.recorded held) (close plugin held.forget) := by
  have closing : Projects Recorded.state id (plugin.recorded.pagerClose held.item)
      (plugin.pagerClose held.item.pager) :=
    fun _ => rfl
  exact (projects_ask held.owner (projects_pass closing)).map fun _ => rfl

theorem projects_closeIfAny (held : Option (Held (Ticketed pi))) :
    Projects forget id (closeIfAny plugin.recorded held)
      (closeIfAny plugin (held.map Held.forget)) := by
  cases held with
  | none =>
      exact Projects.answer ()
  | some held =>
      exact projects_close plugin held

theorem forget_insert_pager (held : Held (Ticketed pi))
    (desk : Desk (Recorded sigma) (Ticketed pi)) :
    forget { desk with pagers := desk.pagers.insert name held } =
      { desk.forget with pagers := desk.forget.pagers.insert name held.forget } := by
  simp only [forget, Dictionary.map_insert]

theorem forget_insert_walk (walk : Held (Pages (Ticketed pi)))
    (desk : Desk (Recorded sigma) (Ticketed pi)) :
    forget { desk with walks := desk.walks.insert name walk } =
      { desk.forget with walks := desk.forget.walks.insert name walk.forgetWalk } := by
  simp only [forget, Dictionary.map_insert]

theorem forget_erase_pager (desk : Desk (Recorded sigma) (Ticketed pi)) :
    forget { desk with pagers := desk.pagers.erase name } =
      { desk.forget with pagers := desk.forget.pagers.erase name } := by
  simp only [forget, Dictionary.map_erase]

theorem pagers_forget (desk : Desk (Recorded sigma) (Ticketed pi)) :
    desk.forget.pagers.get? name = (desk.pagers.get? name).map Held.forget :=
  desk.pagers.get?_map Held.forget name

theorem walks_forget (desk : Desk (Recorded sigma) (Ticketed pi)) :
    desk.forget.walks.get? name = (desk.walks.get? name).map Held.forgetWalk :=
  desk.walks.get?_map Held.forgetWalk name

theorem projects_keepPager (held : Held (Ticketed pi)) :
    Projects forget id (keepPager plugin.recorded name held)
      (keepPager plugin name held.forget) := by
  intro desk
  have closed := projects_closeIfAny plugin (desk.pagers.get? name)
    { desk with pagers := desk.pagers.insert name held }
  rw [forget_insert_pager] at closed
  unfold keepPager
  rw [pagers_forget]
  exact closed

theorem projects_keepWalk (walk : Held (Pages (Ticketed pi))) :
    Projects forget id (keepWalk plugin.recorded name walk)
      (keepWalk plugin name walk.forgetWalk) := by
  intro desk
  have closed := projects_closeIfAny plugin
    ((desk.walks.get? name).map fun held => ⟨held.owner, held.item.pager⟩)
    { desk with walks := desk.walks.insert name walk }
  rw [forget_insert_walk, Option.map_map] at closed
  unfold keepWalk
  rw [walks_forget, Option.map_map]
  exact closed

/-- A request to what stays where it is kept. -/
theorem projects_asking {kept keptPart : Type} {whole : Slot (Recorded sigma) (Ticketed pi) kept}
    {part : Slot sigma pi keptPart} {forgetItem : kept → keptPart}
    (finds : ∀ desk, part.find desk.forget =
      (whole.find desk).map fun held => ⟨held.owner, forgetItem held.item⟩)
    (puts : ∀ owner item desk, (whole.put ⟨owner, item⟩ desk).forget =
      part.put ⟨owner, forgetItem item⟩ desk.forget)
    {request : kept → Request (Recorded sigma) (kept × alpha)}
    {requestPart : keptPart → Request sigma (keptPart × alpha)}
    (projects : ∀ item, Projects Recorded.state
      (fun answer : kept × alpha => (forgetItem answer.1, answer.2))
      (request item) (requestPart (forgetItem item))) :
    Projects forget id (asking whole request) (asking part requestPart) := by
  intro desk
  unfold asking
  rw [finds]
  cases whole.find desk with
  | none =>
      rfl
  | some held =>
      have asked := projects_ask held.owner (projects_pass (projects held.item)) desk
      simp only [Option.map_some]
      rw [asked]
      generalize ask held.owner (Manager.pass (request held.item)) desk = reply
      obtain ⟨_ | ⟨item, value⟩, after, messages⟩ := reply
      · rfl
      · simp only [Reply.map, Reply.mapState, Option.map_some, puts]
        rfl

theorem projects_askPager
    {request : Ticketed pi → Request (Recorded sigma) (Ticketed pi × alpha)}
    {part : pi → Request sigma (pi × alpha)}
    (projects : ∀ ticketed : Ticketed pi, Projects Recorded.state
      (fun answer : Ticketed pi × alpha => (answer.1.pager, answer.2))
      (request ticketed) (part ticketed.pager)) :
    Projects forget id (askPager name request) (askPager name part) := by
  rw [askPager_eq_asking, askPager_eq_asking]
  apply projects_asking (pagers_forget name) _ projects
  exact fun _ _ desk => forget_insert_pager name _ desk

theorem projects_walkOn :
    Projects forget id (walkOn plugin.recorded name) (walkOn plugin name) := by
  rw [walkOn_eq_asking, walkOn_eq_asking]
  apply projects_asking (walks_forget name) _ (projects_next plugin)
  exact fun _ _ desk => forget_insert_walk name _ desk

theorem projects_startWalk :
    Projects forget (Option.map Pages.forget) (startWalk plugin.recorded name)
      (startWalk plugin name) := by
  intro desk
  unfold startWalk
  rw [pagers_forget]
  cases desk.pagers.get? name with
  | none =>
      rfl
  | some held =>
      have kept := projects_keepWalk plugin name ⟨held.owner, Pages.ofPager held.item⟩
        { desk with pagers := desk.pagers.erase name }
      rw [forget_erase_pager] at kept
      have same : keepWalk plugin name
          ⟨held.forget.owner, Pages.ofPager held.forget.item⟩
          { desk.forget with pagers := desk.forget.pagers.erase name } = _ := kept
      simp only [Option.map_some]
      rw [same]
      rfl

theorem projects_collectPages :
    Projects forget id (collectPages plugin.recorded name) (collectPages plugin name) := by
  intro desk
  unfold collectPages
  rw [pagers_forget]
  cases desk.pagers.get? name with
  | none =>
      rfl
  | some held =>
      simp only [Option.map_some]
      rw [← forget_erase_pager]
      apply (projects_ask held.owner
        (projects_pass (projects_take plugin pageLimit (Pages.ofPager held.item)))).bind
      rintro (_ | ⟨walk, items⟩)
      · exact fun _ => rfl
      · exact (projects_close plugin ⟨held.owner, walk.pager⟩).map fun _ => rfl

theorem projects_drop : Projects forget id (drop plugin.recorded name) (drop plugin name) := by
  intro desk
  let pager := desk.pagers.get? name
  let walk := (desk.walks.get? name).map fun held : Held (Pages (Ticketed pi)) =>
    (⟨held.owner, held.item.pager⟩ : Held (Ticketed pi))
  have closed : Projects forget id
      (fun desk => (closeIfAny plugin.recorded pager desk).bind fun _ desk =>
        (closeIfAny plugin.recorded walk desk).map fun _ => pager.isSome || walk.isSome)
      (fun desk => (closeIfAny plugin (pager.map Held.forget) desk).bind fun _ desk =>
        (closeIfAny plugin (walk.map Held.forget) desk).map fun _ =>
          (pager.map Held.forget).isSome || (walk.map Held.forget).isSome) := by
    apply (projects_closeIfAny plugin pager).bind
    intro _
    apply (projects_closeIfAny plugin walk).map
    intro _
    rw [Option.isSome_map, Option.isSome_map]
    rfl
  have agree := closed
    { desk with pagers := desk.pagers.erase name, walks := desk.walks.erase name }
  have erased : forget
      { desk with pagers := desk.pagers.erase name, walks := desk.walks.erase name } =
        { desk.forget with
          pagers := desk.forget.pagers.erase name
          walks := desk.forget.walks.erase name } := by
    simp only [forget, Dictionary.map_erase]
  have sameWalk : walk.map Held.forget =
      (desk.forget.walks.get? name).map fun held => ⟨held.owner, held.item.pager⟩ := by
    rw [walks_forget, Option.map_map, Option.map_map]
    rfl
  rw [erased, sameWalk, ← pagers_forget] at agree
  exact agree

end Keeping

/-! ### Queries -/

section Queries

variable (plugin : Plugin sigma pi)

theorem projects_keepReported (place : Nat) (name : String)
    (reports : List (Report (Ticketed pi))) :
    Projects forget id (keepReported plugin.recorded place name reports)
      (keepReported plugin place name (reports.map (Report.mapValue Ticketed.pager))) := by
  induction reports with
  | nil =>
      exact Projects.answer ()
  | cons report rest inductionHypothesis =>
      obtain ⟨index, error | ticketed⟩ := report
      · exact inductionHypothesis
      · have kept := projects_keepPager plugin (pagerName name index) ⟨place, ticketed⟩
        simp only [List.map_cons, Report.mapValue, Except.map, keepReported]
        apply kept.bind
        intro _
        exact inductionHypothesis

theorem projects_heard (check : Option Fault) (rule : AnswerRule)
    (request : BatchRequest sigma pi) :
    Projects (Manager.mapState Recorded.state)
      (fun heard : Outcome Unit × List (Report (Ticketed pi)) =>
        (heard.1, heard.2.map (Report.mapValue Ticketed.pager)))
      (fun manager =>
        let heard := (Manager.guarded check (Recorded.numbered request) manager).transcript
          rule.onOutlines []
        heard.2.map fun outcome => (outcome, heard.1))
      (fun manager =>
        let heard := (Manager.guarded check request manager).transcript rule.onOutlines []
        heard.2.map fun outcome => (outcome, heard.1)) := by
  intro manager
  cases check with
  | some fault =>
      rfl
  | none =>
      obtain ⟨new, count, same, _, forgotten⟩ := transcript_number rule manager.state
        (request manager.state.state) manager.state.delivered []
      simp only [Manager.guarded, Manager.passBatch, BatchRun.transcript_mapResult,
        Recorded.numbered]
      rw [same]
      simp only [List.map_nil, List.nil_append] at forgotten ⊢
      simp only [Reply.map, Reply.mapState, forgotten]
      rfl

theorem shownPagers_mapValue (name : String) (change : alpha → beta) (outcome : Outcome Unit)
    (reports : List (Report alpha)) :
    shownPagers name outcome (reports.map (Report.mapValue change)) =
      shownPagers name outcome reports := by
  have same : ((fun report : Report beta =>
      (⟨report.index, report.outcome.map fun _ => .pager (pagerName name report.index)⟩ :
        Report ReportedValue)) ∘ Report.mapValue change) =
      fun report => ⟨report.index,
        report.outcome.map fun _ => .pager (pagerName name report.index)⟩ := by
    funext report
    obtain ⟨index, error | value⟩ := report <;> rfl
  unfold shownPagers
  rw [List.map_map, same]

theorem projects_listeningForPagers (check : Option Fault) (place : Nat) (rule : AnswerRule)
    (name : String) (request : BatchRequest sigma pi) :
    Projects forget id
      (listeningForPagers plugin.recorded place rule name
        (Manager.guarded check (Recorded.numbered request)))
      (listeningForPagers plugin place rule name (Manager.guarded check request)) := by
  apply (projects_ask place (projects_heard check rule request)).bind
  rintro (_ | ⟨outcome, reports⟩)
  · exact fun _ => rfl
  · apply (projects_keepReported plugin place name reports).map
    intro _
    exact shownPagers_mapValue name Ticketed.pager outcome reports

end Queries

/-! ### Steps and runs -/

theorem projects_use (plugin : Plugin sigma pi) (place : Nat) (name : String)
    (kind : PagerUse) :
    Projects forget id (perform plugin.recorded place (kind.on name))
      (perform plugin place (kind.on name)) := by
  cases kind with
  | hasNext =>
      exact (projects_askPager name fun ticketed =>
        projects_noting .hasNext plugin.pagerHasNext ticketed).map fun _ => rfl
  | get =>
      exact (projects_askPager name fun ticketed =>
        projects_noting .get plugin.pagerGet ticketed).map fun _ => rfl
  | next =>
      exact (projects_askPager name fun ticketed =>
        projects_noting .next plugin.pagerNext ticketed).map fun _ => rfl
  | describe =>
      intro desk
      simp only [PagerUse.on, perform, pagers_forget]
      cases desk.pagers.get? name <;> rfl
  | pages =>
      exact (projects_collectPages plugin name).map fun _ => rfl
  | intoPages =>
      apply (projects_startWalk plugin name).map
      rintro (_ | walk) <;> rfl
  | nextPage =>
      exact (projects_walkOn plugin name).map fun _ => rfl
  | drop =>
      exact (projects_drop plugin name).map fun _ => rfl

theorem projects_perform (plugin : Plugin sigma pi) (step : PagingStep) :
    Projects forget id (perform plugin.recorded step.place step.operation.toOperation)
      (perform plugin step.place step.operation.toOperation) := by
  rcases step with ⟨place, ⟨rule, name, query⟩ | ⟨name, kind⟩⟩
  · have listened := projects_listeningForPagers plugin
      (Manager.checkPageSize query.pageSize) place rule name (query.make plugin)
    rw [← make_recorded, ← PagerQuery.performBatch_keeping,
      ← PagerQuery.performBatch_keeping] at listened
    exact listened
  · exact projects_use plugin place name kind

theorem runStep_forget (plugin : Plugin sigma pi) (step : PagingStep)
    (desk : Desk (Recorded sigma) (Ticketed pi)) :
    runStep plugin step desk.forget =
      ((runStep plugin.recorded step desk).1, (runStep plugin.recorded step desk).2.forget) := by
  have agree := projects_perform plugin step desk
  unfold runStep run
  rw [agree]
  rfl

/-- To forget the records after a run is to forget them before it, and the answers are the
same. -/
theorem runAll_forget (plugin : Plugin sigma pi) (steps : List PagingStep)
    (desk : Desk (Recorded sigma) (Ticketed pi)) :
    runAll plugin steps desk.forget =
      ((runAll plugin.recorded steps desk).1, (runAll plugin.recorded steps desk).2.forget) := by
  induction steps generalizing desk with
  | nil =>
      rfl
  | cons step rest inductionHypothesis =>
      simp only [runAll, runStep_forget, inductionHypothesis]

end Desk
end AssetExchange
