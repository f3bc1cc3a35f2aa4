import AssetExchange.Proofs.Catalogue.Closing
import AssetExchange.Proofs.Desk.Custody

/-!
# Tallies

A quantity that each manager keeps is tallied together with the pagers of it that are held:
the pagers that were delivered alone (`Ledger.tallied_delivered`), or the count of closed
pagers of a catalogue with one for each pager that is held (`Ledger.tallied_closed`).  Such a
tally grows by one with each pager that is delivered, and by nothing else.
-/

namespace AssetExchange

variable {sigma pi : Type} {plugin : Plugin sigma pi}

namespace Ledger

/-- How many pagers of the manager at a place are held. -/
def heldFrom (place : Nat) (held : List (Nat × Nat)) : Nat :=
  held.countP fun key => key.1 = place

/-- What is measured of the manager at a place and of how many of its pagers are held. -/
def tally (measure : Recorded sigma → Nat → Nat) (ledger : Ledger sigma) (place : Nat) :
    Option Nat :=
  ledger.managers[place]?.map fun manager =>
    measure manager.state (heldFrom place ledger.held)

/-- The measure grows by one with each pager that is delivered, and with nothing else. -/
structure Tallied (plugin : Plugin sigma pi) (measure : Recorded sigma → Nat → Nat) :
    Prop where
  asked : ∀ state ticket (call : PagerCall) pager held, call ≠ .close →
    measure (state.noted plugin ticket call pager) held = measure state held
  closed : ∀ state ticket pager held,
    measure (state.noted plugin ticket .close pager) held = measure state (held + 1)
  delivers : ∀ (state : Recorded sigma) (query : PagerQuery) (rule : AnswerRule) count held,
    measure ⟨((query.make plugin state.state).transcript rule.onOutlines []).2.state,
        state.delivered + count, state.record⟩ (held + count) =
      measure state held + count

variable {measure : Recorded sigma → Nat → Nat} {first second : Ledger sigma}
  {managers : List (Manager (Recorded sigma))} {held later : List (Nat × Nat)}
  {place ticket count : Nat} {manager : Manager (Recorded sigma)}

theorem heldFrom_cons (other place ticket : Nat) (held : List (Nat × Nat)) :
    heldFrom other ((place, ticket) :: held) =
      heldFrom other held + if place = other then 1 else 0 := by
  simp only [heldFrom, List.countP_cons, decide_eq_true_eq]

theorem heldFrom_append_new (other place : Nat) (tickets : List Nat)
    (held : List (Nat × Nat)) :
    heldFrom other (tickets.map (fun ticket => (place, ticket)) ++ held) =
      heldFrom other held + if place = other then tickets.length else 0 := by
  induction tickets with
  | nil =>
      simp
  | cons ticket rest inductionHypothesis =>
      rw [List.map_cons, List.cons_append, heldFrom_cons, inductionHypothesis]
      by_cases same : place = other
      · simp only [if_pos same, List.length_cons]
        omega
      · simp only [if_neg same]

/-- The tally of one manager changes, and those of the others do not. -/
theorem tally_set (there : managers[place]? = some manager) {after : Recorded sigma}
    (here : measure after (heldFrom place later) =
      measure manager.state (heldFrom place held) + count)
    (elsewhere : ∀ other, place ≠ other → heldFrom other later = heldFrom other held)
    (other : Nat) :
    tally measure ⟨managers.set place (manager.hold after), later⟩ other =
      (tally measure ⟨managers, held⟩ other).map (· + if place = other then count else 0) := by
  by_cases same : place = other
  · subst same
    have inside := (List.getElem?_eq_some_iff.1 there).1
    simp only [tally, List.getElem?_set_self inside, there, Option.map_some, ↓reduceIte,
      Manager.hold, here]
  · simp only [tally, List.getElem?_set_ne same, elsewhere other same, if_neg same,
      Nat.add_zero, Option.map_id']

theorem tally_set_same (there : managers[place]? = some manager) {after : Recorded sigma}
    (here : measure after (heldFrom place later) =
      measure manager.state (heldFrom place held))
    (elsewhere : ∀ other, place ≠ other → heldFrom other later = heldFrom other held)
    (other : Nat) :
    tally measure ⟨managers.set place (manager.hold after), later⟩ other =
      tally measure ⟨managers, held⟩ other := by
  have set := tally_set there (here.trans (Nat.add_zero _).symm) elsewhere other
  simpa using set

theorem tally_move (tallied : Tallied plugin measure) (move : Move plugin first second)
    (other : Nat) : tally measure second other = tally measure first other := by
  cases move with
  | asked there holds keeps pager =>
      exact tally_set_same there (tallied.asked _ _ _ pager _ keeps) (fun _ _ => rfl) other
  | closed there pager =>
      apply tally_set_same there
      · rw [heldFrom_cons, if_pos rfl]
        exact tallied.closed _ _ pager _
      · intro another different
        rw [heldFrom_cons, if_neg different, Nat.add_zero]
  | @lost managers held place ticket absent =>
      by_cases same : place = other
      · subst same
        simp only [tally, absent, Option.map_none]
      · simp only [tally, heldFrom_cons, if_neg same, Nat.add_zero]
  | reordered same =>
      simp only [tally, heldFrom, same.countP_eq]

theorem tally_moves (tallied : Tallied plugin measure) (moves : Moves plugin first second)
    (other : Nat) : tally measure second other = tally measure first other := by
  induction moves with
  | refl =>
      rfl
  | tail _ move inductionHypothesis =>
      exact (tally_move tallied move other).trans inductionHypothesis

theorem tally_delivers (tallied : Tallied plugin measure)
    (delivers : Delivers plugin place count first second) (other : Nat) :
    tally measure second other =
      (tally measure first other).map (· + if place = other then count else 0) := by
  cases delivers with
  | nothing =>
      simp only [ite_self, Nat.add_zero, Option.map_id']
  | pagers there query rule =>
      apply tally_set there
      · rw [heldFrom_append_new, if_pos rfl, List.length_range']
        exact tallied.delivers _ query rule _ _
      · intro another different
        rw [heldFrom_append_new, if_neg different, Nat.add_zero]

theorem tally_acts (tallied : Tallied plugin measure)
    (acts : Acts plugin place count first second) (other : Nat) :
    tally measure second other =
      (tally measure first other).map (· + if place = other then count else 0) := by
  obtain ⟨middle, delivers, moves⟩ := acts
  rw [tally_moves tallied moves, tally_delivers tallied delivers]

/-- The pagers that were delivered. -/
theorem tallied_delivered (plugin : Plugin sigma pi) :
    Tallied plugin fun state _ => state.delivered where
  asked := fun _ _ _ _ _ _ => rfl
  closed := fun _ _ _ _ => rfl
  delivers := fun _ _ _ _ _ => rfl

/-- The pagers of a catalogue that were closed, and those that are held. -/
theorem tallied_closed :
    Tallied Catalogue.plugin fun state held => state.state.closedPagers + held where
  asked := by
    intro state ticket call pager held keeps
    simp only [Recorded.noted, Catalogue.closedPagers_served, if_neg keeps, Nat.add_zero]
  closed := by
    intro state ticket pager held
    simp only [Recorded.noted, Catalogue.closedPagers_served, ↓reduceIte]
    omega
  delivers := by
    intro state query rule count held
    simp only [Catalogue.closedPagers_make]
    omega

end Ledger

/-! ## Runs -/

namespace Desk

theorem pagersDelivered_cons (place : Nat) (step : PagingStep) (answer : Answer)
    (steps : List PagingStep) (answers : List Answer) :
    pagersDelivered place (step :: steps) (answer :: answers) =
      (if step.place = place then answer.pagersReported else 0) +
        pagersDelivered place steps answers := by
  by_cases same : step.place = place
  · simp [pagersDelivered, same]
  · simp [pagersDelivered, same]

/-- In a run, a tally grows by the pagers that the answers report. -/
theorem tally_runAll {measure : Recorded sigma → Nat → Nat}
    (tallied : Ledger.Tallied plugin measure) (steps : List PagingStep)
    (desk : Desk (Recorded sigma) (Ticketed pi)) (place : Nat) :
    let run := runAll plugin.recorded steps desk
    (run.2.ledger []).tally measure place =
      ((desk.ledger []).tally measure place).map (· + pagersDelivered place steps run.1) := by
  induction steps generalizing desk with
  | nil =>
      simp [runAll, pagersDelivered]
  | cons step rest inductionHypothesis =>
      have first := Ledger.tally_acts tallied (acts_runStep plugin step desk) place
      have later := inductionHypothesis (runStep plugin.recorded step desk).2
      simp only [runAll, pagersDelivered_cons] at later ⊢
      rw [later, first, Option.map_map]
      congr 1
      funext before
      simp only [Function.comp_apply]
      omega

end Desk
end AssetExchange
