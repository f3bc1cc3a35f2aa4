import AssetExchange.Proofs.Desk.PagerUses
import AssetExchange.Proofs.Pager.Record

/-!
# What is kept under names

A desk keeps pagers and walks by their names.  One lemma for each operation tells what is
kept after it (`Desk.kept`), whatever the managers answer: a pager leaves its name when it is
dropped, when its pages are collected and when it becomes a walk, one that is delivered takes
a name over, and a request to a manager changes nothing.
-/

namespace AssetExchange
namespace Desk

variable {sigma pi alpha : Type} (plugin : Plugin sigma pi)

/-! ## Requests to managers -/

section Ask

variable {place : Nat} {desk : Desk sigma pi} {manager : Manager sigma}

def setManager (place : Nat) (manager : Manager sigma) (desk : Desk sigma pi) :
    Desk sigma pi :=
  { desk with
    session := { desk.session with managers := desk.session.managers.set place manager } }

theorem ask_of_absent (absent : desk.session.managers[place]? = none)
    (request : Request (Manager sigma) alpha) : ask place request desk = ⟨none, desk, []⟩ := by
  simp only [ask, askSession, Session.askManager, absent, Reply.mapState]

theorem ask_of_there (there : desk.session.managers[place]? = some manager)
    (request : Request (Manager sigma) alpha) :
    ask place request desk =
      ⟨some (request manager).answer, desk.setManager place (request manager).state,
        (request manager).messages⟩ := by
  simp only [ask, askSession, Session.askManager, there, Reply.mapState, setManager]

end Ask

/-! ## Pagers and walks -/

/-- The pagers and the walks of a desk, by their names. -/
def kept (desk : Desk sigma pi) : Dictionary (Held pi) × Dictionary (Held (Pages pi)) :=
  (desk.pagers, desk.walks)

@[simp] theorem kept_ask (place : Nat) (request : Request (Manager sigma) alpha)
    (desk : Desk sigma pi) : (ask place request desk).state.kept = desk.kept :=
  rfl

@[simp] theorem kept_close (held : Held pi) (desk : Desk sigma pi) :
    (close plugin held desk).state.kept = desk.kept :=
  rfl

@[simp] theorem kept_closeIfAny (held : Option (Held pi)) (desk : Desk sigma pi) :
    (closeIfAny plugin held desk).state.kept = desk.kept := by
  cases held with
  | none =>
      rfl
  | some held =>
      exact kept_close plugin held desk

theorem kept_keepPager (name : String) (pager : Held pi) (desk : Desk sigma pi) :
    (keepPager plugin name pager desk).state.kept =
      (desk.pagers.insert name pager, desk.walks) :=
  kept_closeIfAny plugin _ _

theorem kept_keepWalk (name : String) (walk : Held (Pages pi)) (desk : Desk sigma pi) :
    (keepWalk plugin name walk desk).state.kept =
      (desk.pagers, desk.walks.insert name walk) :=
  kept_closeIfAny plugin _ _

theorem kept_startWalk (name : String) (desk : Desk sigma pi) :
    (startWalk plugin name desk).state.kept =
      match desk.pagers.get? name with
      | none => desk.kept
      | some held =>
          (desk.pagers.erase name,
            desk.walks.insert name ⟨held.owner, Pages.ofPager held.item⟩) := by
  unfold startWalk
  cases desk.pagers.get? name with
  | none =>
      rfl
  | some held =>
      exact kept_keepWalk plugin name _ _

theorem kept_collect (held : Held pi) (desk : Desk sigma pi) :
    (collect plugin held desk).state.kept = desk.kept := by
  have asked := kept_ask held.owner
    (Manager.pass (Pages.take plugin pageLimit (Pages.ofPager held.item))) desk
  unfold collect
  generalize ask held.owner _ desk = reply at asked ⊢
  obtain ⟨_ | ⟨walk, items⟩, later, messages⟩ := reply
  · exact asked
  · exact asked

theorem kept_collectPages (name : String) (desk : Desk sigma pi) :
    (collectPages plugin name desk).state.kept = (desk.pagers.erase name, desk.walks) := by
  unfold collectPages
  cases found : desk.pagers.get? name with
  | none =>
      rw [Dictionary.erase_of_absent found]
      rfl
  | some held =>
      exact kept_collect plugin held _

theorem kept_drop (name : String) (desk : Desk sigma pi) :
    (drop plugin name desk).state.kept = (desk.pagers.erase name, desk.walks.erase name) := by
  unfold drop
  exact (kept_closeIfAny plugin _ _).trans (kept_closeIfAny plugin _ _)

/-- The reported pagers, each under its name. -/
def insertReported (place : Nat) (name : String) :
    List (Report pi) → Dictionary (Held pi) → Dictionary (Held pi)
  | [], pagers => pagers
  | ⟨index, .ok pager⟩ :: rest, pagers =>
      insertReported place name rest (pagers.insert (pagerName name index) ⟨place, pager⟩)
  | ⟨_, .error _⟩ :: rest, pagers => insertReported place name rest pagers

theorem kept_keepReported (place : Nat) (name : String) (reports : List (Report pi))
    (desk : Desk sigma pi) :
    (keepReported plugin place name reports desk).state.kept =
      (insertReported place name reports desk.pagers, desk.walks) := by
  induction reports generalizing desk with
  | nil =>
      rfl
  | cons report rest inductionHypothesis =>
      obtain ⟨index, error | pager⟩ := report
      · exact inductionHypothesis desk
      · have first := kept_keepPager plugin (pagerName name index) ⟨place, pager⟩ desk
        have later := inductionHypothesis
          (keepPager plugin (pagerName name index) ⟨place, pager⟩ desk).state
        obtain ⟨pagers, walks⟩ := Prod.mk.inj first
        rw [pagers, walks] at later
        exact later

/-! ## What stays where it is -/

/-- A request to what is kept reaches nobody, or the manager and what is kept change. -/
theorem state_asking {kept : Type} (slot : Slot sigma pi kept)
    (request : kept → Request sigma (kept × alpha)) (desk : Desk sigma pi) :
    (asking slot request desk).state = desk ∨
      ∃ held manager, slot.find desk = some held ∧
        desk.session.managers[held.owner]? = some manager ∧
        (asking slot request desk).state =
          slot.put ⟨held.owner, (request held.item manager.state).answer.1⟩
            (desk.setManager held.owner
              (Manager.pass (request held.item) manager).state) := by
  cases found : slot.find desk with
  | none =>
      left
      simp only [asking, found]
  | some held =>
      cases there : desk.session.managers[held.owner]? with
      | none =>
          left
          simp only [asking, found, ask_of_absent there]
      | some manager =>
          right
          refine ⟨held, manager, rfl, there, ?_⟩
          simp only [asking, found, ask_of_there there]
          rfl

/-! ## Queries -/

/-- The answer to a query: its reports, with the names under which the pagers are kept. -/
def shownPagers (name : String) (outcome : Outcome Unit) (reports : List (Report alpha)) :
    Answer :=
  let shown := reports.map fun report =>
    (⟨report.index, report.outcome.map fun _ => .pager (pagerName name report.index)⟩ :
      Report ReportedValue)
  match outcome with
  | .ok () => .reports shown
  | .error error => .failureAfter error shown

/-- The names under which reported pagers are kept. -/
def reportedNames (name : String) : List (Report alpha) → List String
  | [] => []
  | ⟨index, .ok _⟩ :: rest => pagerName name index :: reportedNames name rest
  | ⟨_, .error _⟩ :: rest => reportedNames name rest

theorem pagerNames_shownPagers (name : String) (outcome : Outcome Unit)
    (reports : List (Report alpha)) :
    (shownPagers name outcome reports).pagerNames = reportedNames name reports := by
  have names : (reports.map fun report =>
      (⟨report.index, report.outcome.map fun _ => .pager (pagerName name report.index)⟩ :
        Report ReportedValue)).filterMap Report.pagerName? = reportedNames name reports := by
    induction reports with
    | nil =>
        rfl
    | cons report rest inductionHypothesis =>
        obtain ⟨index, error | value⟩ := report
        · exact inductionHypothesis
        · exact congrArg (List.cons (pagerName name index)) inductionHypothesis
  rcases outcome with error | _
  · exact names
  · exact names

/-- A query whose manager is there: the reports are kept and shown. -/
theorem listeningForPagers_of_there {place : Nat} {desk : Desk sigma pi}
    {manager : Manager sigma} (there : desk.session.managers[place]? = some manager)
    (rule : AnswerRule) (name : String) (request : BatchRequest (Manager sigma) pi) :
    let heard := (request manager).transcript rule.onOutlines []
    let reply := listeningForPagers plugin place rule name request desk
    reply.answer = shownPagers name heard.2.answer heard.1 ∧
      reply.state = (keepReported plugin place name heard.1
        (desk.setManager place heard.2.state)).state := by
  unfold listeningForPagers listen
  rw [ask_of_there there]
  exact ⟨rfl, rfl⟩

end Desk
end AssetExchange
