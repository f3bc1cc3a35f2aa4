import AssetExchange.Proofs.Catalogue.Closing
import AssetExchange.Proofs.Desk.Forgetting

/-!
# The pagers of catalogues do not affect each other

Through a name one sees of a desk the pager and the walk that are kept under the name, and
the managers, whose counts of closed pagers are left out (`Desk.SameView`).  The use of a
pager of a catalogue is confined to its name (`Desk.Confined`): what comes of it depends on
what is seen through the name, and nothing of it is seen through any other name.  Therefore
the uses of the pagers under other names can be left out of a run, and the answers to the
other steps stay the same (`Desk.answers_independent`).
-/

namespace AssetExchange

open Catalogue (Blind withClosed)

variable {sigma pi alpha beta : Type}

namespace Desk

/-! ## What is seen through a name -/

/-- A desk where a host works with catalogues. -/
abbrev OfCatalogues := Desk Catalogue CataloguePager

/-- The managers of a desk without the counts of the pagers that were closed. -/
def uncounted (desk : OfCatalogues) : List (Manager Catalogue) :=
  desk.session.managers.map (Manager.mapState (withClosed 0))

/-- The same is seen of two desks through a name. -/
structure SameView (name : String) (first second : OfCatalogues) : Prop where
  managers : first.uncounted = second.uncounted
  pager : first.pagers.get? name = second.pagers.get? name
  walk : first.walks.get? name = second.walks.get? name

theorem uncounted_setManager (place : Nat) (manager : Manager Catalogue)
    (desk : OfCatalogues) :
    (desk.setManager place manager).uncounted =
      desk.uncounted.set place (manager.mapState (withClosed 0)) :=
  List.map_set

variable {name other : String} {first second third : OfCatalogues}

theorem SameView.refl (name : String) (desk : OfCatalogues) : SameView name desk desk :=
  ⟨rfl, rfl, rfl⟩

theorem SameView.symm (same : SameView name first second) : SameView name second first :=
  ⟨same.managers.symm, same.pager.symm, same.walk.symm⟩

theorem SameView.trans (same : SameView name first second)
    (again : SameView name second third) : SameView name first third :=
  ⟨same.managers.trans again.managers, same.pager.trans again.pager,
    same.walk.trans again.walk⟩

/-- What is kept on a desk can be exchanged, if the same is then seen of it. -/
theorem SameView.keep (same : SameView name first second)
    {pagers latePagers : Dictionary (Held CataloguePager)}
    {walks lateWalks : Dictionary (Held (Pages CataloguePager))}
    (pager : pagers.get? name = latePagers.get? name)
    (walk : walks.get? name = lateWalks.get? name) :
    SameView name { first with pagers := pagers, walks := walks }
      { second with pagers := latePagers, walks := lateWalks } :=
  ⟨same.managers, pager, walk⟩

theorem managers_of_uncounted (same : first.uncounted = second.uncounted) (place : Nat) :
    (first.session.managers[place]?).map (Manager.mapState (withClosed 0)) =
      (second.session.managers[place]?).map (Manager.mapState (withClosed 0)) := by
  rw [← List.getElem?_map, ← List.getElem?_map]
  exact congrArg (fun managers => managers[place]?) same

/-! ## Requests of which nothing is seen -/

/-- Nothing is seen of the request through any name, and its answer depends on the managers
alone. -/
structure Unseen (request : Request OfCatalogues alpha) : Prop where
  answer : ∀ first second, first.uncounted = second.uncounted →
    (request first).answer = (request second).answer
  state : ∀ name desk, SameView name (request desk).state desk

theorem Unseen.map {request : Request OfCatalogues alpha} (unseen : Unseen request)
    (change : alpha → beta) : Unseen fun desk => (request desk).map change :=
  ⟨fun first second same => congrArg change (unseen.answer first second same),
    unseen.state⟩

theorem Unseen.bind {request : Request OfCatalogues alpha} (unseen : Unseen request)
    {next : alpha → Request OfCatalogues beta} (later : ∀ value, Unseen (next value)) :
    Unseen fun desk => (request desk).bind next where
  answer := by
    intro first second same
    have sameAnswer := unseen.answer first second same
    have sameManagers : (request first).state.uncounted = (request second).state.uncounted :=
      (unseen.state "" first).managers.trans (same.trans (unseen.state "" second).managers.symm)
    simp only [Reply.bind, sameAnswer]
    exact (later _).answer _ _ sameManagers
  state := by
    intro name desk
    exact ((later _).state name _).trans (unseen.state name desk)

theorem unseen_answer (value : alpha) : Unseen (Request.answer value) :=
  ⟨fun _ _ _ => rfl, SameView.refl⟩

theorem unseen_ask {request : Request Catalogue alpha} (blind : Blind request)
    (place : Nat) : Unseen (ask place (Manager.pass request)) := by
  obtain ⟨value, answers⟩ := blind
  constructor
  case answer =>
    intro first second same
    have found := managers_of_uncounted same place
    cases there : first.session.managers[place]? with
    | none =>
        cases thereToo : second.session.managers[place]? with
        | none =>
            rw [ask_of_absent there, ask_of_absent thereToo]
        | some manager =>
            rw [there, thereToo] at found
            cases found
    | some manager =>
        cases thereToo : second.session.managers[place]? with
        | none =>
            rw [there, thereToo] at found
            cases found
        | some managerToo =>
            rw [ask_of_there there, ask_of_there thereToo]
            exact congrArg some
              ((answers manager.state).1.trans (answers managerToo.state).1.symm)
  case state =>
    intro name desk
    cases there : desk.session.managers[place]? with
    | none =>
        rw [ask_of_absent there]
        exact SameView.refl name desk
    | some manager =>
        rw [ask_of_there there]
        refine ⟨?_, rfl, rfl⟩
        have same : (Manager.pass request manager).state.mapState (withClosed 0) =
            manager.mapState (withClosed 0) := by
          have unchanged := (answers manager.state).2
          simp only [Manager.pass, Manager.mapState, Manager.hold, Reply.mapState, unchanged]
        have thereStill : (desk.session.managers.map (Manager.mapState (withClosed 0)))[place]? =
            some (manager.mapState (withClosed 0)) := by
          rw [List.getElem?_map, there]
          rfl
        rw [uncounted_setManager, same]
        exact set_of_getElem? thereStill

theorem unseen_close (held : Held CataloguePager) : Unseen (close Catalogue.plugin held) :=
  (unseen_ask (Catalogue.blind_close held.item) held.owner).map _

theorem unseen_closeIfAny (held : Option (Held CataloguePager)) :
    Unseen (closeIfAny Catalogue.plugin held) := by
  cases held with
  | none =>
      exact unseen_answer ()
  | some held =>
      exact unseen_close held

/-! ## Requests that are confined to a name -/

/-- The request does the same to desks of which the same is seen through the name. -/
def Depends (name : String) (request : Request OfCatalogues alpha) : Prop :=
  ∀ first second, SameView name first second →
    (request first).answer = (request second).answer ∧
      SameView name (request first).state (request second).state

theorem depends_answer (name : String) (value : alpha) :
    Depends name (Request.answer value) :=
  fun _ _ same => ⟨rfl, same⟩

theorem Depends.map {request : Request OfCatalogues alpha} (depends : Depends name request)
    (change : alpha → beta) : Depends name fun desk => (request desk).map change := by
  intro first second same
  obtain ⟨sameAnswer, sameState⟩ := depends first second same
  exact ⟨congrArg change sameAnswer, sameState⟩

theorem Depends.bind {request : Request OfCatalogues alpha} (depends : Depends name request)
    {next : alpha → Request OfCatalogues beta} (later : ∀ value, Depends name (next value)) :
    Depends name fun desk => (request desk).bind next := by
  intro first second same
  obtain ⟨sameAnswer, sameState⟩ := depends first second same
  simp only [Reply.bind, sameAnswer]
  exact later _ _ _ sameState

/-- What comes of the request depends on what is seen through the name, and nothing of it is
seen through other names. -/
structure Confined (name : String) (request : Request OfCatalogues alpha) : Prop where
  depends : Depends name request
  hidden : ∀ other desk, name ≠ other → SameView other (request desk).state desk

theorem Unseen.confined {request : Request OfCatalogues alpha} (unseen : Unseen request)
    (name : String) : Confined name request where
  depends := by
    intro first second same
    refine ⟨unseen.answer first second same.managers, ?_⟩
    exact (unseen.state name first).trans (same.trans (unseen.state name second).symm)
  hidden := fun other desk _ => unseen.state other desk

theorem Confined.map {request : Request OfCatalogues alpha} (confined : Confined name request)
    (change : alpha → beta) : Confined name fun desk => (request desk).map change :=
  ⟨confined.depends.map change, confined.hidden⟩

/-- A request to what stays where it is kept, if that is seen through the name only. -/
theorem confined_asking {kept : Type} {slot : Slot Catalogue CataloguePager kept}
    (finds : ∀ {first second}, SameView name first second → slot.find first = slot.find second)
    (puts : ∀ {first second} held, SameView name first second →
      SameView name (slot.put held first) (slot.put held second))
    (hides : ∀ {other} held desk, name ≠ other → SameView other (slot.put held desk) desk)
    {request : kept → Request Catalogue (kept × alpha)}
    (blind : ∀ item, Blind (request item)) :
    Confined name (asking slot request) where
  depends := by
    intro first second same
    unfold asking
    rw [finds same]
    cases slot.find second with
    | none =>
        exact ⟨rfl, same⟩
    | some held =>
        have asked := (unseen_ask (blind held.item) held.owner).confined name
        obtain ⟨sameAnswer, sameState⟩ := asked.depends first second same
        dsimp only
        rw [sameAnswer]
        cases (ask held.owner (Manager.pass (request held.item)) second).answer with
        | none =>
            exact ⟨rfl, sameState⟩
        | some answer =>
            exact ⟨rfl, puts _ sameState⟩
  hidden := by
    intro other desk different
    unfold asking
    cases slot.find desk with
    | none =>
        exact SameView.refl other desk
    | some held =>
        have unchanged := (unseen_ask (blind held.item) held.owner).state other desk
        dsimp only
        cases (ask held.owner (Manager.pass (request held.item)) desk).answer with
        | none =>
            exact unchanged
        | some answer =>
            exact (hides _ _ different).trans unchanged

theorem confined_askPager
    {request : CataloguePager → Request Catalogue (CataloguePager × alpha)}
    (blind : ∀ pager, Blind (request pager)) (name : String) :
    Confined name (askPager name request) := by
  rw [askPager_eq_asking]
  apply confined_asking _ _ _ blind
  · intro first second same
    exact same.pager
  · intro first second held same
    apply same.keep _ same.walk
    rw [Dictionary.get?_insert_self, Dictionary.get?_insert_self]
  · intro other held desk different
    apply (SameView.refl other desk).keep _ rfl
    exact Dictionary.get?_insert_of_ne _ _ different

theorem confined_walkOn (name : String) : Confined name (walkOn Catalogue.plugin name) := by
  rw [walkOn_eq_asking]
  apply confined_asking _ _ _ Catalogue.blind_next
  · intro first second same
    exact same.walk
  · intro first second held same
    apply same.keep same.pager
    rw [Dictionary.get?_insert_self, Dictionary.get?_insert_self]
  · intro other held desk different
    apply (SameView.refl other desk).keep rfl
    exact Dictionary.get?_insert_of_ne _ _ different

theorem confined_keepWalk (name : String) (walk : Held (Pages CataloguePager)) :
    Confined name (keepWalk Catalogue.plugin name walk) where
  depends := by
    intro first second same
    unfold keepWalk
    rw [same.walk]
    apply ((unseen_closeIfAny _).confined name).depends
    apply same.keep same.pager
    rw [Dictionary.get?_insert_self, Dictionary.get?_insert_self]
  hidden := by
    intro other desk different
    apply ((unseen_closeIfAny _).state other _).trans
    apply (SameView.refl other desk).keep rfl
    exact Dictionary.get?_insert_of_ne _ _ different

theorem SameView.erasePager (same : SameView name first second) :
    SameView name { first with pagers := first.pagers.erase name }
      { second with pagers := second.pagers.erase name } := by
  apply same.keep _ same.walk
  rw [Dictionary.get?_erase, Dictionary.get?_erase, same.pager]

theorem sameView_erasePager (different : name ≠ other) (desk : OfCatalogues) :
    SameView other { desk with pagers := desk.pagers.erase name } desk := by
  apply (SameView.refl other desk).keep _ rfl
  rw [Dictionary.get?_erase, if_neg different]

theorem confined_startWalk (name : String) :
    Confined name (startWalk Catalogue.plugin name) where
  depends := by
    intro first second same
    unfold startWalk
    rw [same.pager]
    cases second.pagers.get? name with
    | none =>
        exact ⟨rfl, same⟩
    | some held =>
        exact ((confined_keepWalk name _).map _).depends _ _ same.erasePager
  hidden := by
    intro other desk different
    unfold startWalk
    cases desk.pagers.get? name with
    | none =>
        exact SameView.refl other desk
    | some held =>
        have kept := (confined_keepWalk name ⟨held.owner, Pages.ofPager held.item⟩).hidden other
          { desk with pagers := desk.pagers.erase name } different
        exact kept.trans (sameView_erasePager different desk)

theorem unseen_collect (held : Held CataloguePager) :
    Unseen (collect Catalogue.plugin held) := by
  apply (unseen_ask (Catalogue.blind_take pageLimit _) held.owner).bind
  rintro (_ | ⟨walk, items⟩)
  · exact unseen_answer none
  · exact (unseen_close _).map _

theorem confined_collectPages (name : String) :
    Confined name (collectPages Catalogue.plugin name) where
  depends := by
    intro first second same
    unfold collectPages
    rw [same.pager]
    cases second.pagers.get? name with
    | none =>
        exact ⟨rfl, same⟩
    | some held =>
        exact ((unseen_collect held).confined name).depends _ _ same.erasePager
  hidden := by
    intro other desk different
    unfold collectPages
    cases desk.pagers.get? name with
    | none =>
        exact SameView.refl other desk
    | some held =>
        exact ((unseen_collect held).state other _).trans (sameView_erasePager different desk)

theorem confined_drop (name : String) : Confined name (drop Catalogue.plugin name) := by
  have closing : ∀ (pager walk : Option (Held CataloguePager)),
      Unseen fun desk : OfCatalogues =>
        (closeIfAny Catalogue.plugin pager desk).bind fun _ desk =>
          (closeIfAny Catalogue.plugin walk desk).map fun _ =>
            pager.isSome || walk.isSome := by
    intro pager walk
    exact (unseen_closeIfAny pager).bind fun _ => (unseen_closeIfAny walk).map _
  constructor
  case depends =>
    intro first second same
    unfold drop
    rw [same.pager, same.walk]
    apply ((closing _ _).confined name).depends
    apply same.keep
    · rw [Dictionary.get?_erase, Dictionary.get?_erase, same.pager]
    · rw [Dictionary.get?_erase, Dictionary.get?_erase, same.walk]
  case hidden =>
    intro other desk different
    apply ((closing _ _).state other _).trans
    apply (SameView.refl other desk).keep
    · rw [Dictionary.get?_erase, if_neg different]
    · rw [Dictionary.get?_erase, if_neg different]

theorem confined_use (place : Nat) (name : String) (kind : PagerUse) :
    Confined name (perform Catalogue.plugin place (kind.on name)) := by
  cases kind with
  | hasNext =>
      exact (confined_askPager (fun pager => Catalogue.blind_answer (pager, _)) name).map _
  | get =>
      exact (confined_askPager (fun pager => Catalogue.blind_answer (pager, _)) name).map _
  | next =>
      exact (confined_askPager (fun pager => Catalogue.blind_answer (pager.next, _)) name).map _
  | describe =>
      constructor
      case depends =>
        intro first second same
        simp only [PagerUse.on, perform, same.pager]
        exact ⟨trivial, same⟩
      case hidden =>
        intro other desk _
        exact SameView.refl other desk
  | pages =>
      exact (confined_collectPages name).map _
  | intoPages =>
      exact (confined_startWalk name).map _
  | nextPage =>
      exact (confined_walkOn name).map _
  | drop =>
      exact (confined_drop name).map _

/-! ## Queries -/

/-- A request to a manager that pays no heed to the count. -/
theorem depends_ask {request : Request (Manager Catalogue) alpha}
    (blind : Request.Projects (Manager.mapState (withClosed 0)) id request request)
    (place : Nat) (name : String) : Depends name (ask place request) := by
  intro first second same
  have found := managers_of_uncounted same.managers place
  cases there : first.session.managers[place]? with
  | none =>
      cases thereToo : second.session.managers[place]? with
      | none =>
          rw [ask_of_absent there, ask_of_absent thereToo]
          exact ⟨rfl, same⟩
      | some manager =>
          rw [there, thereToo] at found
          cases found
  | some manager =>
      cases thereToo : second.session.managers[place]? with
      | none =>
          rw [there, thereToo] at found
          cases found
      | some managerToo =>
          rw [there, thereToo] at found
          have alike : manager.mapState (withClosed 0) = managerToo.mapState (withClosed 0) :=
            Option.some.inj found
          have served := blind manager
          rw [alike, blind managerToo] at served
          have sameAnswer : (request managerToo).answer = (request manager).answer :=
            (congrArg Reply.answer served :)
          have sameManager : (request managerToo).state.mapState (withClosed 0) =
              (request manager).state.mapState (withClosed 0) :=
            (congrArg Reply.state served :)
          rw [ask_of_there there, ask_of_there thereToo]
          refine ⟨congrArg some sameAnswer.symm, ?_, same.pager, same.walk⟩
          rw [uncounted_setManager, uncounted_setManager, same.managers, sameManager]

theorem projects_heard_withClosed (check : Option Fault) (rule : AnswerRule)
    (query : PagerQuery) :
    Request.Projects (Manager.mapState (withClosed 0)) id
      (fun manager =>
        let heard := (Manager.guarded check (query.make Catalogue.plugin) manager).transcript
          rule.onOutlines []
        heard.2.map fun outcome => (outcome, heard.1))
      (fun manager =>
        let heard := (Manager.guarded check (query.make Catalogue.plugin) manager).transcript
          rule.onOutlines []
        heard.2.map fun outcome => (outcome, heard.1)) := by
  intro manager
  cases check with
  | some fault =>
      rfl
  | none =>
      have made := Catalogue.make_withClosed query 0 manager.state
      have state : (manager.mapState (withClosed 0)).state = withClosed 0 manager.state := rfl
      simp only [Manager.guarded, Manager.passBatch, BatchRun.transcript_mapResult, state, made]
      rfl

theorem depends_keepPager (key name : String) (held : Held CataloguePager) :
    Depends name (keepPager Catalogue.plugin key held) := by
  intro first second same
  refine ⟨rfl, ?_⟩
  have kept : SameView name { first with pagers := first.pagers.insert key held }
      { second with pagers := second.pagers.insert key held } := by
    apply same.keep _ same.walk
    rw [Dictionary.get?_insert, Dictionary.get?_insert, same.pager]
  -- Different pagers may have had the key; to close them is not seen.
  have firstClosed := (unseen_closeIfAny (first.pagers.get? key)).state name
    { first with pagers := first.pagers.insert key held }
  have secondClosed := (unseen_closeIfAny (second.pagers.get? key)).state name
    { second with pagers := second.pagers.insert key held }
  exact firstClosed.trans (kept.trans secondClosed.symm)

theorem depends_keepReported (place : Nat) (key name : String)
    (reports : List (Report CataloguePager)) :
    Depends name (keepReported Catalogue.plugin place key reports) := by
  induction reports with
  | nil =>
      exact depends_answer name ()
  | cons report rest inductionHypothesis =>
      obtain ⟨index, error | pager⟩ := report
      · exact inductionHypothesis
      · exact (depends_keepPager _ name _).bind fun _ => inductionHypothesis

/-- A query does the same to desks of which the same is seen through a name, whatever the
name. -/
theorem depends_query (place : Nat) (rule : AnswerRule) (key name : String)
    (query : PagerQuery) :
    Depends name (performBatch Catalogue.plugin place rule (query.keeping key)) := by
  rw [PagerQuery.performBatch_keeping]
  apply (depends_ask (projects_heard_withClosed _ rule query) place name).bind
  rintro (_ | ⟨outcome, reports⟩)
  · exact depends_answer name _
  · exact (depends_keepReported place key name reports).map _

/-! ## Runs -/

/-- The answers to the steps that concern a name. -/
def answersTo (name : String) (steps : List PagingStep) (answers : List Answer) :
    List Answer :=
  ((steps.zip answers).filter fun entry => entry.1.concerns name).map Prod.snd

theorem runStep_of_concerns {step : PagingStep} (concerns : step.concerns name = true)
    (same : SameView name first second) :
    (runStep Catalogue.plugin step first).1 = (runStep Catalogue.plugin step second).1 ∧
      SameView name (runStep Catalogue.plugin step first).2
        (runStep Catalogue.plugin step second).2 := by
  rcases step with ⟨place, ⟨rule, key, query⟩ | ⟨other, kind⟩⟩
  · obtain ⟨sameAnswer, sameState⟩ := depends_query place rule key name query first second same
    exact ⟨sameAnswer, sameState.managers, sameState.pager, sameState.walk⟩
  · obtain rfl : other = name := of_decide_eq_true concerns
    obtain ⟨sameAnswer, sameState⟩ :=
      (confined_use place other kind).depends first second same
    exact ⟨sameAnswer, sameState.managers, sameState.pager, sameState.walk⟩

theorem sameView_runStep {step : PagingStep} (another : step.concerns name = false)
    (desk : OfCatalogues) : SameView name (runStep Catalogue.plugin step desk).2 desk := by
  rcases step with ⟨place, ⟨rule, key, query⟩ | ⟨other, kind⟩⟩
  · cases another
  · have different : other ≠ name := of_decide_eq_false another
    have hidden := (confined_use place other kind).hidden name desk different
    exact ⟨hidden.managers, hidden.pager, hidden.walk⟩

/-- The uses of what is kept under other names can be left out of a run. -/
theorem answers_independent (name : String) (steps : List PagingStep)
    (same : SameView name first second) :
    answersTo name steps (runAll Catalogue.plugin steps first).1 =
      (runAll Catalogue.plugin (steps.filter (PagingStep.concerns name)) second).1 := by
  induction steps generalizing first second with
  | nil =>
      rfl
  | cons step rest inductionHypothesis =>
      by_cases concerns : step.concerns name = true
      · obtain ⟨sameAnswer, sameState⟩ := runStep_of_concerns concerns same
        have later := inductionHypothesis sameState
        rw [List.filter_cons_of_pos concerns]
        simp only [answersTo, runAll, List.zip_cons_cons, List.filter_cons, concerns,
          ↓reduceIte, List.map_cons] at later ⊢
        rw [later, sameAnswer]
      · -- The step is left out of the second run, and nothing of it is seen in the first.
        have another : step.concerns name = false := by simpa using concerns
        have later := inductionHypothesis ((sameView_runStep another first).trans same)
        rw [List.filter_cons_of_neg concerns]
        simp only [answersTo, runAll, List.zip_cons_cons, List.filter_cons, another,
          Bool.false_eq_true, ↓reduceIte] at later ⊢
        exact later

end Desk
end AssetExchange
