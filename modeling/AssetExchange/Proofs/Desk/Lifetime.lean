import AssetExchange.Proofs.Desk.Custody
import Mathlib.Data.List.Nodup

/-!
# The lives of pagers

Every pager is delivered to the host, is held for some time and is closed once, when it is
no longer held.  `Recorded.Lives` says this of the record of one manager, given which of
its pagers are held, and `Ledger.Balanced` of all managers.  Nothing that can happen to a
ledger upsets its balance (`Ledger.Balanced.acts`), so it holds at each point of a run
(`Desk.balanced_runAll`).
-/

namespace AssetExchange

variable {sigma pi : Type} {plugin : Plugin sigma pi}

/-! ## The pagers of one manager -/

namespace Recorded

variable {state : Recorded sigma} {isHeld later : Nat → Prop} {ticket : Nat}

def IsOpen (state : Recorded sigma) (ticket : Nat) : Prop :=
  .close ∉ state.callsOf ticket

/-- The pager with the ticket was closed once, and no request followed. -/
def IsClosed (state : Recorded sigma) (ticket : Nat) : Prop :=
  ∃ before, .close ∉ before ∧ state.callsOf ticket = before ++ [.close]

/-- The pagers that are held are open, those that were delivered and are not held are
closed, and no others got a request. -/
structure Lives (state : Recorded sigma) (isHeld : Nat → Prop) : Prop where
  delivered : ∀ ticket, isHeld ticket → ticket < state.delivered
  isOpen : ∀ ticket, isHeld ticket → state.IsOpen ticket
  isClosed : ∀ ticket, ticket < state.delivered → ¬ isHeld ticket → state.IsClosed ticket
  unheard : ∀ ticket, state.delivered ≤ ticket → state.callsOf ticket = []

theorem callsOf_noted_self (plugin : Plugin sigma pi) (state : Recorded sigma)
    (ticket : Nat) (call : PagerCall) (pager : pi) :
    (state.noted plugin ticket call pager).callsOf ticket = state.callsOf ticket ++ [call] := by
  simp [callsOf, noted]

theorem callsOf_noted_of_ne {other : Nat} (different : ticket ≠ other) (call : PagerCall)
    (pager : pi) :
    (state.noted plugin ticket call pager).callsOf other = state.callsOf other := by
  simp [callsOf, noted, different]

theorem callsOf_prefix_noted (plugin : Plugin sigma pi) (state : Recorded sigma)
    (ticket : Nat) (call : PagerCall) (pager : pi) (other : Nat) :
    state.callsOf other <+: (state.noted plugin ticket call pager).callsOf other := by
  by_cases same : ticket = other
  · rw [← same, callsOf_noted_self]
    exact List.prefix_append _ _
  · simp only [callsOf_noted_of_ne same, List.prefix_rfl]

theorem Lives.congr (lives : state.Lives isHeld)
    (same : ∀ ticket, later ticket ↔ isHeld ticket) : state.Lives later := by
  have equal : later = isHeld := funext fun ticket => propext (same ticket)
  rw [equal]
  exact lives

theorem lives_fresh (start : sigma) (none : ∀ ticket, ¬ isHeld ticket) :
    (fresh start).Lives isHeld where
  delivered := fun ticket held => absurd held (none ticket)
  isOpen := fun ticket held => absurd held (none ticket)
  isClosed := fun ticket below => absurd below (Nat.not_lt_zero ticket)
  unheard := fun _ _ => rfl

/-- A request to a pager that is held, other than closing it. -/
theorem Lives.asked (lives : state.Lives isHeld) (held : isHeld ticket) {call : PagerCall}
    (keeps : call ≠ .close) (pager : pi) :
    (state.noted plugin ticket call pager).Lives isHeld where
  delivered := lives.delivered
  isOpen := by
    intro other otherHeld
    unfold IsOpen
    by_cases same : ticket = other
    · rw [← same, callsOf_noted_self]
      intro member
      rcases List.mem_append.1 member with before | last
      · exact lives.isOpen ticket held before
      · exact keeps (List.mem_singleton.1 last).symm
    · rw [callsOf_noted_of_ne same]
      exact lives.isOpen other otherHeld
  isClosed := by
    intro other below dropped
    have different : ticket ≠ other := by
      rintro rfl
      exact dropped held
    unfold IsClosed
    rw [callsOf_noted_of_ne different]
    exact lives.isClosed other below dropped
  unheard := by
    intro other beyond
    have below := lives.delivered ticket held
    have different : ticket ≠ other := Nat.ne_of_lt (Nat.lt_of_lt_of_le below beyond)
    rw [callsOf_noted_of_ne different]
    exact lives.unheard other beyond

/-- A pager that was held is closed. -/
theorem Lives.closed (lives : state.Lives isHeld) (held : isHeld ticket)
    (rest : ∀ other, later other ↔ isHeld other ∧ ticket ≠ other) (pager : pi) :
    (state.noted plugin ticket .close pager).Lives later where
  delivered := by
    intro other otherHeld
    exact lives.delivered other ((rest other).1 otherHeld).1
  isOpen := by
    intro other otherHeld
    obtain ⟨heldBefore, different⟩ := (rest other).1 otherHeld
    unfold IsOpen
    rw [callsOf_noted_of_ne different]
    exact lives.isOpen other heldBefore
  isClosed := by
    intro other below dropped
    by_cases same : ticket = other
    · rw [← same]
      exact ⟨state.callsOf ticket, lives.isOpen ticket held, callsOf_noted_self _ _ _ _ _⟩
    · have droppedBefore : ¬ isHeld other := fun heldBefore =>
        dropped ((rest other).2 ⟨heldBefore, same⟩)
      unfold IsClosed
      rw [callsOf_noted_of_ne same]
      exact lives.isClosed other below droppedBefore
  unheard := by
    intro other beyond
    have below := lives.delivered ticket held
    have different : ticket ≠ other := Nat.ne_of_lt (Nat.lt_of_lt_of_le below beyond)
    rw [callsOf_noted_of_ne different]
    exact lives.unheard other beyond

theorem Lives.delivers (lives : state.Lives isHeld) (after : sigma) (count : Nat)
    (more : ∀ ticket, later ticket ↔
      isHeld ticket ∨ state.delivered ≤ ticket ∧ ticket < state.delivered + count) :
    Lives ⟨after, state.delivered + count, state.record⟩ later where
  delivered := by
    intro ticket held
    rcases (more ticket).1 held with before | ⟨_, below⟩
    · have below := lives.delivered ticket before
      exact Nat.lt_add_right count below
    · exact below
  isOpen := by
    intro ticket held
    rcases (more ticket).1 held with before | ⟨new, _⟩
    · exact lives.isOpen ticket before
    · have silent : state.callsOf ticket = [] := lives.unheard ticket new
      change PagerCall.close ∉ state.callsOf ticket
      rw [silent]
      exact List.not_mem_nil
  isClosed := by
    intro ticket below dropped
    have old : ticket < state.delivered := by
      by_contra new
      exact dropped ((more ticket).2 (.inr ⟨Nat.le_of_not_lt new, below⟩))
    exact lives.isClosed ticket old fun held => dropped ((more ticket).2 (.inl held))
  unheard := by
    intro ticket beyond
    exact lives.unheard ticket (Nat.le_trans (Nat.le_add_right _ _) beyond)

end Recorded

/-! ## Ledgers -/

namespace Ledger

/-- Each pager that is held is held once and belongs to a manager that is there, and the
pagers of each manager live as they should. -/
structure Balanced (ledger : Ledger sigma) : Prop where
  once : ledger.held.Nodup
  there : ∀ key ∈ ledger.held, key.1 < ledger.managers.length
  lives : ∀ (place : Nat) (manager : Manager (Recorded sigma)),
    ledger.managers[place]? = some manager →
      manager.state.Lives fun ticket => (place, ticket) ∈ ledger.held

variable {first second : Ledger sigma} {managers : List (Manager (Recorded sigma))}
  {held later : List (Nat × Nat)} {place : Nat} {manager : Manager (Recorded sigma)}

/-- Nothing changes but one manager, and which of its pagers are held. -/
theorem Balanced.set (balanced : Balanced ⟨managers, held⟩)
    (there : managers[place]? = some manager) {after : Recorded sigma} (once : later.Nodup)
    (elsewhere : ∀ other ticket, place ≠ other →
      ((other, ticket) ∈ later ↔ (other, ticket) ∈ held))
    (here : after.Lives fun ticket => (place, ticket) ∈ later) :
    Balanced ⟨managers.set place (manager.hold after), later⟩ where
  once := once
  there := by
    rintro ⟨other, ticket⟩ member
    rw [List.length_set]
    by_cases same : place = other
    · rw [← same]
      exact (List.getElem?_eq_some_iff.1 there).1
    · exact balanced.there (other, ticket) ((elsewhere other ticket same).1 member)
  lives := by
    intro other found present
    by_cases same : place = other
    · subst same
      have inside := (List.getElem?_eq_some_iff.1 there).1
      change (managers.set place (manager.hold after))[place]? = some found at present
      rw [List.getElem?_set_self inside] at present
      obtain rfl := Option.some.inj present
      exact here
    · change (managers.set place (manager.hold after))[other]? = some found at present
      rw [List.getElem?_set_ne same] at present
      exact (balanced.lives other found present).congr fun ticket =>
        elsewhere other ticket same

theorem Balanced.move (balanced : Balanced first) (move : Move plugin first second) :
    Balanced second := by
  cases move with
  | asked there holds keeps pager =>
      have lives := balanced.lives _ _ there
      exact balanced.set there balanced.once (fun _ _ _ => Iff.rfl)
        (lives.asked holds keeps pager)
  | @closed managers held place ticket manager there pager =>
      have lives := balanced.lives _ _ there
      obtain ⟨notAgain, once⟩ := List.nodup_cons.1 balanced.once
      apply balanced.set there once
      · intro other number different
        rw [List.mem_cons]
        constructor
        · exact Or.inr
        · rintro (same | member)
          · exact absurd (congrArg Prod.fst same).symm different
          · exact member
      · apply lives.closed List.mem_cons_self
        intro other
        rw [List.mem_cons]
        constructor
        · intro member
          refine ⟨.inr member, ?_⟩
          rintro rfl
          exact notAgain member
        · rintro ⟨same | member, different⟩
          · exact absurd (congrArg Prod.snd same).symm different
          · exact member
  | @lost managers held place ticket absent =>
      -- A manager whose pager is held is there.
      have inside : place < managers.length := balanced.there (place, ticket) List.mem_cons_self
      have beyond : managers.length ≤ place := List.getElem?_eq_none_iff.1 absent
      exact absurd inside (Nat.not_lt.2 beyond)
  | reordered same =>
      exact ⟨same.nodup_iff.1 balanced.once,
        fun key member => balanced.there key (same.mem_iff.2 member),
        fun place manager there => (balanced.lives place manager there).congr
          fun _ => same.mem_iff.symm⟩

theorem Balanced.moves (balanced : Balanced first) (moves : Moves plugin first second) :
    Balanced second := by
  induction moves with
  | refl =>
      exact balanced
  | tail _ move inductionHypothesis =>
      exact inductionHypothesis.move move

theorem Balanced.delivers {count : Nat} (balanced : Balanced first)
    (delivers : Delivers plugin place count first second) : Balanced second := by
  cases delivers with
  | nothing =>
      exact balanced
  | @pagers managers held manager there query rule =>
      have lives := balanced.lives place manager there
      have new : ∀ other ticket, (other, ticket) ∈
          (List.range' manager.state.delivered count).map (fun ticket => (place, ticket)) ↔
            place = other ∧ manager.state.delivered ≤ ticket ∧
              ticket < manager.state.delivered + count := by
        intro other ticket
        simp [List.mem_range'_1, and_left_comm]
      apply balanced.set there
      · -- The tickets of new pagers are beyond those of all pagers that are held.
        have distinct : ((List.range' manager.state.delivered count).map
            fun ticket => (place, ticket)).Nodup :=
          List.Nodup.map (fun _ _ same => (Prod.mk.inj same).2) List.nodup_range'
        refine List.nodup_append'.2 ⟨distinct, balanced.once, ?_⟩
        rintro ⟨other, ticket⟩ isNew isHeld
        obtain ⟨rfl, atLeast, _⟩ := (new other ticket).1 isNew
        exact absurd (lives.delivered ticket isHeld) (Nat.not_lt.2 atLeast)
      · intro other ticket different
        rw [List.mem_append, new]
        constructor
        · rintro (⟨same, _⟩ | member)
          · exact absurd same different
          · exact member
        · exact Or.inr
      · apply lives.delivers
        intro ticket
        rw [List.mem_append, new]
        tauto

theorem Balanced.acts {count : Nat} (balanced : Balanced first)
    (acts : Acts plugin place count first second) : Balanced second := by
  obtain ⟨middle, delivers, moves⟩ := acts
  exact (balanced.delivers delivers).moves moves

theorem balanced_of_fresh (states : List (Manager sigma)) :
    Balanced ⟨states.map fun manager => manager.hold (Recorded.fresh manager.state), []⟩ where
  once := List.nodup_nil
  there := fun _ member => absurd member List.not_mem_nil
  lives := by
    intro place manager there
    obtain ⟨start, _, rfl⟩ := List.mem_map.1 (List.mem_of_getElem? there)
    exact Recorded.lives_fresh start.state fun _ => List.not_mem_nil

/-! ### The requests to one pager -/

variable {ledger : Ledger sigma} {key : Nat × Nat}

def callsTo (ledger : Ledger sigma) (key : Nat × Nat) : List PagerCall :=
  match ledger.managers[key.1]? with
  | some manager => manager.state.callsOf key.2
  | none => []

theorem callsTo_of_there (there : ledger.managers[key.1]? = some manager) :
    ledger.callsTo key = manager.state.callsOf key.2 := by
  rw [callsTo, there]

theorem callsTo_prefix_set (there : managers[place]? = some manager) {after : Recorded sigma}
    (grows : ∀ ticket, manager.state.callsOf ticket <+: after.callsOf ticket)
    (key : Nat × Nat) :
    callsTo ⟨managers, held⟩ key <+:
      callsTo ⟨managers.set place (manager.hold after), later⟩ key := by
  by_cases same : place = key.1
  · have inside := (List.getElem?_eq_some_iff.1 there).1
    have thereThen : (managers.set place (manager.hold after))[key.1]? =
        some (manager.hold after) := by
      rw [← same, List.getElem?_set_self inside]
    rw [same] at there
    rw [callsTo_of_there there, callsTo_of_there thereThen]
    exact grows key.2
  · simp only [callsTo, List.getElem?_set_ne same]
    exact List.prefix_rfl

/-- What a pager was asked is not forgotten. -/
theorem callsTo_prefix_move (move : Move plugin first second) (key : Nat × Nat) :
    first.callsTo key <+: second.callsTo key := by
  cases move with
  | asked there _ _ pager =>
      exact callsTo_prefix_set there (fun ticket => Recorded.callsOf_prefix_noted ..) key
  | closed there pager =>
      exact callsTo_prefix_set there (fun ticket => Recorded.callsOf_prefix_noted ..) key
  | lost =>
      exact List.prefix_rfl
  | reordered =>
      exact List.prefix_rfl

theorem callsTo_prefix_acts {count : Nat} (acts : Acts plugin place count first second)
    (key : Nat × Nat) : first.callsTo key <+: second.callsTo key := by
  obtain ⟨middle, delivers, moves⟩ := acts
  have delivered : first.callsTo key <+: middle.callsTo key := by
    cases delivers with
    | nothing =>
        exact List.prefix_rfl
    | @pagers managers held manager there query rule =>
        have silent : ∀ ticket, manager.state.callsOf ticket <+:
            Recorded.callsOf
              ⟨((query.make plugin manager.state.state).transcript rule.onOutlines []).2.state,
                manager.state.delivered + count, manager.state.record⟩ ticket :=
          fun _ => List.prefix_rfl
        exact callsTo_prefix_set there silent key
  induction moves with
  | refl =>
      exact delivered
  | tail _ move inductionHypothesis =>
      exact inductionHypothesis.trans (callsTo_prefix_move move key)

end Ledger

/-! ## Runs -/

namespace Desk

theorem balanced_runAll (plugin : Plugin sigma pi) (steps : List PagingStep)
    (desk : Desk (Recorded sigma) (Ticketed pi)) (balanced : (desk.ledger []).Balanced) :
    ((runAll plugin.recorded steps desk).2.ledger []).Balanced := by
  induction steps generalizing desk with
  | nil =>
      exact balanced
  | cons step rest inductionHypothesis =>
      exact inductionHypothesis _ (balanced.acts (acts_runStep plugin step desk))

theorem callsTo_prefix_runAll (plugin : Plugin sigma pi) (steps : List PagingStep)
    (desk : Desk (Recorded sigma) (Ticketed pi)) (key : Nat × Nat) :
    (desk.ledger []).callsTo key <+:
      ((runAll plugin.recorded steps desk).2.ledger []).callsTo key := by
  induction steps generalizing desk with
  | nil =>
      exact List.prefix_rfl
  | cons step rest inductionHypothesis =>
      have first := Ledger.callsTo_prefix_acts (acts_runStep plugin step desk) key
      exact first.trans (inductionHypothesis _)

end Desk

end AssetExchange
