import AssetExchange.Proofs.Desk.Independence
import AssetExchange.Proofs.Desk.Lifetime
import AssetExchange.Proofs.Desk.Possession

/-!
# Every pager is closed once

Which pagers a host holds at a point of a run is read off the steps it has made and their
answers (`Desk.possessed`), and what happened to them off the record of a manager that keeps
one (`Desk.bookedAfter`).  At each point of each run the two fit: the pagers that are held
are open, and all others were closed (`Desk.balanced_bookedAfter`).  So the step that takes a
pager from the host is the one that closes it, and nothing is asked of it afterwards
(`Ledger.closedBetween`).

`pagers_closed_once` puts together what is known of the runs of a host that works with
pagers.
-/

namespace AssetExchange

variable {sigma pi : Type} {plugin : Plugin sigma pi}

/-! ## Pagers that are lost -/

/-- The host had the pager, or just got it, and has it no longer. -/
structure Possession.Loses (before after : Possession) (key : Nat × Nat) : Prop where
  had : key ∈ before.held ∨ before.delivered key.1 ≤ key.2 ∧ key.2 < after.delivered key.1
  gone : key ∉ after.held

namespace Ledger

/-- The pager was open, then it was closed once, after all other requests, and nothing is
asked of it to the last. -/
structure ClosedBetween (before after last : Ledger sigma) (key : Nat × Nat) : Prop where
  isOpen : .close ∉ before.callsTo key
  isClosed : ∃ calls, .close ∉ calls ∧ after.callsTo key = calls ++ [.close]
  silent : last.callsTo key = after.callsTo key

variable {ledger before after last : Ledger sigma} {manager : Manager (Recorded sigma)}
  {key : Nat × Nat}

theorem deliveredAt_of_there {place : Nat} (there : ledger.managers[place]? = some manager) :
    ledger.deliveredAt place = manager.state.delivered := by
  simp only [deliveredAt, tally, there]
  rfl

theorem Balanced.lives_there (balanced : ledger.Balanced) (held : key ∈ ledger.held) :
    ∃ manager, ledger.managers[key.1]? = some manager ∧
      manager.state.Lives fun ticket => (key.1, ticket) ∈ ledger.held := by
  have there := List.getElem?_eq_getElem (balanced.there key held)
  exact ⟨_, there, balanced.lives _ _ there⟩

theorem Balanced.lt_deliveredAt (balanced : ledger.Balanced) (held : key ∈ ledger.held) :
    key.2 < ledger.deliveredAt key.1 := by
  obtain ⟨manager, there, lives⟩ := balanced.lives_there held
  rw [deliveredAt_of_there there]
  exact lives.delivered key.2 held

theorem Balanced.isOpen (balanced : ledger.Balanced) (held : key ∈ ledger.held) :
    .close ∉ ledger.callsTo key := by
  obtain ⟨manager, there, lives⟩ := balanced.lives_there held
  rw [callsTo_of_there there]
  exact lives.isOpen key.2 held

theorem Balanced.isClosed (balanced : ledger.Balanced)
    (delivered : key.2 < ledger.deliveredAt key.1) (gone : key ∉ ledger.held) :
    ∃ calls, .close ∉ calls ∧ ledger.callsTo key = calls ++ [.close] := by
  cases there : ledger.managers[key.1]? with
  | none =>
      simp only [deliveredAt, tally, there] at delivered
      cases delivered
  | some manager =>
      rw [deliveredAt_of_there there] at delivered
      rw [callsTo_of_there there]
      exact (balanced.lives _ _ there).isClosed key.2 delivered gone

theorem Balanced.unheard (balanced : ledger.Balanced)
    (beyond : ledger.deliveredAt key.1 ≤ key.2) : ledger.callsTo key = [] := by
  cases there : ledger.managers[key.1]? with
  | none =>
      rw [callsTo, there]
  | some manager =>
      rw [deliveredAt_of_there there] at beyond
      rw [callsTo_of_there there]
      exact (balanced.lives _ _ there).unheard key.2 beyond

/-- Once a pager was closed, nothing is asked of it. -/
theorem Balanced.silent (balanced : last.Balanced) {calls : List PagerCall}
    (closed : after.callsTo key = calls ++ [.close])
    (later : after.callsTo key <+: last.callsTo key) :
    last.callsTo key = after.callsTo key := by
  have member : .close ∈ last.callsTo key := by
    apply later.subset
    rw [closed]
    exact List.mem_concat_self
  have gone : key ∉ last.held := fun held => balanced.isOpen held member
  have delivered : key.2 < last.deliveredAt key.1 := by
    by_contra beyond
    rw [balanced.unheard (Nat.not_lt.1 beyond)] at member
    cases member
  obtain ⟨others, onlyOnce, same⟩ := balanced.isClosed delivered gone
  rw [closed, same] at later
  rcases List.prefix_concat_iff.1 later with equal | within
  · rw [same, closed, equal]
  · exact absurd (within.subset List.mem_concat_self) onlyOnce

/-- A pager that is lost on the way from one balanced ledger to another was closed there. -/
theorem closedBetween (balancedBefore : before.Balanced) (balancedAfter : after.Balanced)
    (balancedLast : last.Balanced)
    (grows : before.deliveredAt key.1 ≤ after.deliveredAt key.1)
    (later : after.callsTo key <+: last.callsTo key)
    (had : key ∈ before.held ∨
      before.deliveredAt key.1 ≤ key.2 ∧ key.2 < after.deliveredAt key.1)
    (gone : key ∉ after.held) : ClosedBetween before after last key := by
  have delivered : key.2 < after.deliveredAt key.1 := by
    rcases had with held | ⟨_, new⟩
    · exact Nat.lt_of_lt_of_le (balancedBefore.lt_deliveredAt held) grows
    · exact new
  obtain ⟨calls, onlyOnce, closed⟩ := balancedAfter.isClosed delivered gone
  constructor
  case isOpen =>
    rcases had with held | ⟨beyond, _⟩
    · exact balancedBefore.isOpen held
    · rw [balancedBefore.unheard beyond]
      exact List.not_mem_nil
  case isClosed =>
    exact ⟨calls, onlyOnce, closed⟩
  case silent =>
    exact balancedLast.silent closed later

end Ledger

/-! ## From the beginning -/

namespace Desk

theorem ledger_ofSession (session : Session sigma) (log : FilterStack) :
    ledger [] (ofSession session.watched log : Desk (Recorded sigma) (Ticketed pi)) =
      ⟨session.managers.map (Manager.mapState Recorded.fresh), []⟩ :=
  rfl

theorem forget_ofSession (session : Session sigma) (log : FilterStack) :
    forget (ofSession session.watched log) = (ofSession session log : Desk sigma pi) := by
  simp only [forget, ofSession, session.mapStates_watched]
  rfl

theorem tally_ofSession (measure : Recorded sigma → Nat → Nat) (session : Session sigma)
    (log : FilterStack) (place : Nat) :
    (ledger [] (ofSession session.watched log : Desk (Recorded sigma) (Ticketed pi))).tally
        measure place =
      session.managers[place]?.map fun manager => measure (.fresh manager.state) 0 := by
  rw [ledger_ofSession]
  simp only [Ledger.tally, List.getElem?_map, Option.map_map]
  rfl

theorem possession_ofSession (session : Session sigma) (log : FilterStack) :
    (ofSession session.watched log : Desk (Recorded sigma) (Ticketed pi)).possession =
      .nothing := by
  apply Possession.ext
  · rfl
  · rfl
  · funext place
    change (Ledger.tally _ _ place).getD 0 = 0
    rw [tally_ofSession]
    cases session.managers[place]? <;> rfl

/-- What a host possesses after steps that it made from a desk with nothing on it. -/
def possessed (plugin : Plugin sigma pi) (desk : Desk sigma pi) (steps : List PagingStep) :
    Possession :=
  .after steps (runAll plugin steps desk).1

/-- The managers after the steps, with what they recorded, and the pagers that are held
according to the steps and their answers. -/
def bookedAfter (plugin : Plugin sigma pi) (session : Session sigma) (log : FilterStack)
    (steps : List PagingStep) : Ledger sigma :=
  ⟨(runAll plugin.recorded steps (ofSession session.watched log)).2.session.managers,
    (possessed plugin (ofSession session log) steps).held⟩

section Runs

variable (plugin : Plugin sigma pi) (session : Session sigma) (log : FilterStack)
  (steps : List PagingStep)

theorem runAll_ofSession :
    runAll plugin steps (ofSession session log) =
      ((runAll plugin.recorded steps (ofSession session.watched log)).1,
        (runAll plugin.recorded steps (ofSession session.watched log)).2.forget) := by
  rw [← forget_ofSession]
  exact runAll_forget plugin steps (ofSession session.watched log)

/-- What is read off the steps and the answers is what the desk holds. -/
theorem possession_eq_possessed :
    (runAll plugin.recorded steps (ofSession session.watched log)).2.possession =
      possessed plugin (ofSession session log) steps := by
  have same := possession_runAll plugin steps (ofSession session.watched log)
  dsimp only at same
  rw [same, possession_ofSession, possessed, Possession.after,
    runAll_ofSession plugin session log steps]

theorem bookedAfter_eq_ledger :
    bookedAfter plugin session log steps =
      (runAll plugin.recorded steps (ofSession session.watched log)).2.ledger [] := by
  rw [bookedAfter, ← possession_eq_possessed, ← holdings_eq_held]
  rfl

theorem balanced_bookedAfter : (bookedAfter plugin session log steps).Balanced := by
  rw [bookedAfter_eq_ledger]
  apply balanced_runAll
  exact Ledger.balanced_of_fresh session.managers

theorem deliveredAt_bookedAfter :
    (bookedAfter plugin session log steps).deliveredAt =
      (possessed plugin (ofSession session log) steps).delivered := by
  rw [bookedAfter_eq_ledger, ← possession_eq_possessed]
  rfl

theorem runAll_append (before later : List PagingStep) (desk : Desk sigma pi) :
    (runAll plugin (before ++ later) desk).2 =
      (runAll plugin later (runAll plugin before desk).2).2 := by
  induction before generalizing desk with
  | nil =>
      rfl
  | cons step rest inductionHypothesis =>
      exact inductionHypothesis (runStep plugin step desk).2

theorem callsTo_prefix_bookedAfter (later : List PagingStep) (key : Nat × Nat) :
    (bookedAfter plugin session log steps).callsTo key <+:
      (bookedAfter plugin session log (steps ++ later)).callsTo key := by
  rw [bookedAfter_eq_ledger, bookedAfter_eq_ledger, runAll_append]
  exact callsTo_prefix_runAll plugin later _ key

theorem deliveredAt_le_bookedAfter (step : PagingStep) (place : Nat) :
    (bookedAfter plugin session log steps).deliveredAt place ≤
      (bookedAfter plugin session log (steps ++ [step])).deliveredAt place := by
  have acts := acts_runStep plugin step
    (runAll plugin.recorded steps (ofSession session.watched log)).2
  rw [bookedAfter_eq_ledger, bookedAfter_eq_ledger, runAll_append]
  have grown := Ledger.deliveredAt_acts acts place
  exact Nat.le_trans (Nat.le_add_right _ _) (Nat.le_of_eq grown.symm)

/-- A pager is closed by the step with which the host loses it. -/
theorem closedBetween_of_loses {before later : List PagingStep} {step : PagingStep}
    (split : steps = before ++ step :: later) {key : Nat × Nat}
    (loses : (possessed plugin (ofSession session log) before).Loses
      (possessed plugin (ofSession session log) (before ++ [step])) key) :
    Ledger.ClosedBetween (bookedAfter plugin session log before)
      (bookedAfter plugin session log (before ++ [step]))
      (bookedAfter plugin session log steps) key := by
  have rest : steps = (before ++ [step]) ++ later := by
    rw [split, List.append_assoc]
    rfl
  have had := loses.had
  rw [← deliveredAt_bookedAfter, ← deliveredAt_bookedAfter] at had
  apply Ledger.closedBetween
  · exact balanced_bookedAfter plugin session log before
  · exact balanced_bookedAfter plugin session log (before ++ [step])
  · exact balanced_bookedAfter plugin session log steps
  · exact deliveredAt_le_bookedAfter plugin session log before step key.1
  · rw [rest]
    exact callsTo_prefix_bookedAfter plugin session log (before ++ [step]) later key
  · exact had
  · exact loses.gone

/-- For each manager of the session, pagers are delivered as the answers report. -/
theorem delivered_runAll (place : Nat) :
    let run := runAll plugin.recorded steps (ofSession session.watched log)
    run.2.session.managers[place]?.map (fun manager => manager.state.delivered) =
      session.managers[place]?.map fun _ => pagersDelivered place steps run.1 := by
  have tally := tally_runAll (Ledger.tallied_delivered plugin) steps
    (ofSession session.watched log) place
  dsimp only at tally ⊢
  rw [tally_ofSession, Option.map_map] at tally
  simp only [Function.comp_def, Recorded.fresh, Nat.zero_add] at tally
  exact tally

end Runs

/-- A catalogue has closed the pagers that were delivered and are not held any more. -/
theorem closed_runAll (session : Session Catalogue) (log : FilterStack)
    (steps : List PagingStep) (place : Nat) :
    let run := runAll Catalogue.plugin steps (ofSession session log)
    run.2.session.managers[place]?.map
        (fun manager => manager.state.closedPagers +
          Ledger.heldFrom place (Possession.after steps run.1).held) =
      session.managers[place]?.map fun manager =>
        manager.state.closedPagers + pagersDelivered place steps run.1 := by
  have tally := tally_runAll Ledger.tallied_closed steps (ofSession session.watched log) place
  have held := congrArg Possession.held
    (possession_eq_possessed Catalogue.plugin session log steps)
  rw [← holdings_eq_held, possessed] at held
  dsimp only at tally ⊢
  rw [tally_ofSession, Option.map_map] at tally
  rw [← held, runAll_ofSession Catalogue.plugin session log steps]
  simp only [Function.comp_def] at tally
  refine Eq.trans ?_ tally
  simp only [forget, Session.mapStates, List.getElem?_map, Option.map_map]
  rfl

/-- Two pagers are asked for; one becomes a walk and is dropped, the other one stays. -/
def walkAndDrop : List PagingStep :=
  [⟨0, .query .never "p"
      (.toMany [⟨"a"⟩, ⟨"b"⟩] (TraitsData.empty.addTrait "album") .empty 1
        ⟨.read, List.mem_cons_self⟩ .empty)⟩,
    ⟨0, .use "p0" .intoPages⟩, ⟨0, .use "p1" .hasNext⟩, ⟨0, .use "p0" .drop⟩]

example :
    let session := Session.ofManager ⟨"host", "Host", .empty⟩ (Catalogue.named "stock")
    let run := runAll Catalogue.plugin walkAndDrop (ofSession session .recorder)
    run.2.session.managers.map (fun manager => manager.state.closedPagers) = [1] ∧
      pagersDelivered 0 walkAndDrop run.1 = 2 ∧
      (Possession.after (walkAndDrop.take 3) run.1).held = [(0, 1), (0, 0)] ∧
      (Possession.after walkAndDrop run.1).held = [(0, 1)] :=
  ⟨rfl, rfl, rfl, rfl⟩

end Desk

/-- Let a host make queries for pagers and use and drop the pagers, in any order and with
any managers.  Recording what happens to the pagers changes nothing, and the record is of as
many pagers as the answers report.  Which pagers the host holds is told by its steps and the
answers alone: those are open, and all others were closed once, after all their other
requests.  The step with which the host loses a pager is the one that closes it, and nothing
is asked of the pager in the rest of the run.

Where the managers are catalogues, the pagers that were closed and those that are held are
those that were delivered, and what is done with pagers under other names can be left out
without a change in the other answers. -/
theorem pagers_closed_once (plugin : Plugin sigma pi) (session : Session sigma)
    (catalogues : Session Catalogue) (log : FilterStack) (steps : List PagingStep) :
    (let start := Desk.ofSession session log
      let plain := Desk.runAll plugin steps start
      let watched := Desk.runAll plugin.recorded steps (Desk.ofSession session.watched log)
      let booked := Desk.bookedAfter plugin session log
      watched.1 = plain.1 ∧ watched.2.forget = plain.2 ∧
        watched.2.possession = Desk.possessed plugin start steps ∧
        (∀ place : Nat,
          watched.2.session.managers[place]?.map (fun manager => manager.state.delivered) =
            session.managers[place]?.map fun _ => pagersDelivered place steps plain.1) ∧
        (booked steps).Balanced ∧
        ∀ before step later, steps = before ++ step :: later → ∀ key,
          (Desk.possessed plugin start before).Loses
              (Desk.possessed plugin start (before ++ [step])) key →
            Ledger.ClosedBetween (booked before) (booked (before ++ [step])) (booked steps)
              key) ∧
      let run := Desk.runAll Catalogue.plugin steps (Desk.ofSession catalogues log)
      (∀ place : Nat,
        run.2.session.managers[place]?.map
            (fun manager => manager.state.closedPagers +
              Ledger.heldFrom place (Possession.after steps run.1).held) =
          catalogues.managers[place]?.map fun manager =>
            manager.state.closedPagers + pagersDelivered place steps run.1) ∧
        ∀ name : String,
          Desk.answersTo name steps run.1 =
            (Desk.runAll Catalogue.plugin (steps.filter (PagingStep.concerns name))
              (Desk.ofSession catalogues log)).1 := by
  have plain := Desk.runAll_ofSession plugin session log steps
  refine ⟨⟨?_, ?_, ?_, ?_, ?_, ?_⟩, ?_, ?_⟩
  · rw [plain]
  · rw [plain]
  · exact Desk.possession_eq_possessed plugin session log steps
  · intro place
    rw [plain]
    exact Desk.delivered_runAll plugin session log steps place
  · exact Desk.balanced_bookedAfter plugin session log steps
  · intro before step later split key loses
    exact Desk.closedBetween_of_loses plugin session log steps split loses
  · exact Desk.closed_runAll catalogues log steps
  · intro name
    exact Desk.answers_independent name steps (Desk.SameView.refl name _)

end AssetExchange
