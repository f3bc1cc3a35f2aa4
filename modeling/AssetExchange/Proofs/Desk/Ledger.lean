import AssetExchange.Proofs.Desk.PagerUses
import AssetExchange.Proofs.Pager.Record
import Mathlib.Data.List.Perm.Basic
import Mathlib.Logic.Relation

/-!
# Ledgers of pagers

A pager of a manager is named by the manager's place and the pager's ticket.  A `Ledger`
is what matters for the lives of pagers: the managers with their records, and the pagers
that are held.

`Ledger.Move` says what can happen to the pagers that are held, `Ledger.Delivers` how a
query adds to them, and `Ledger.Acts` what one operation does: it delivers pagers and then
makes moves.
-/

namespace AssetExchange

/-! ## Dictionaries as collections -/

section Collections

variable {alpha : Type}

theorem Entries.perm_erase (key : String) (entries : List (String × alpha)) :
    entries.Perm
      (((get? key entries).map fun value => (key, value)).toList ++ erase key entries) := by
  induction entries with
  | nil =>
      exact List.Perm.refl _
  | cons head rest inductionHypothesis =>
      obtain ⟨name, value⟩ := head
      by_cases same : name = key
      · simp only [get?, erase, if_pos same]
        rw [same]
        exact List.Perm.refl _
      · simp only [get?, erase, if_neg same]
        exact (inductionHypothesis.cons _).trans List.perm_middle.symm

theorem Entries.perm_insert (key : String) (value : alpha)
    {entries : List (String × alpha)} (ascending : Ascending entries) :
    (insert key value entries).Perm ((key, value) :: erase key entries) := by
  induction entries with
  | nil =>
      exact List.Perm.refl _
  | cons head rest inductionHypothesis =>
      obtain ⟨name, held⟩ := head
      obtain ⟨below, restAscending⟩ := (ascending_cons_iff _ _).1 ascending
      by_cases smaller : key < name
      · -- The key is not bound, so erasing it changes nothing.
        have absent : get? key ((name, held) :: rest) = none := by
          apply get?_eq_none_of_below
          intro entry member
          rcases List.mem_cons.1 member with rfl | inside
          · exact smaller
          · exact String.lt_trans smaller (below entry inside)
        have unchanged := perm_erase key ((name, held) :: rest)
        rw [absent] at unchanged
        rw [insert, if_pos smaller]
        exact unchanged.cons _
      · by_cases same : name = key
        · simp only [insert, erase, if_neg smaller, if_pos same]
          exact List.Perm.refl _
        · simp only [insert, erase, if_neg smaller, if_neg same]
          exact ((inductionHypothesis restAscending).cons _).trans (List.Perm.swap _ _ _)

namespace Dictionary

def values (dictionary : Dictionary alpha) : List alpha :=
  dictionary.toList.map Prod.snd

theorem values_map {beta : Type} (change : alpha → beta) (dictionary : Dictionary alpha) :
    (dictionary.map change).values = dictionary.values.map change := by
  simp only [values, toList, map, List.map_map]
  rfl

theorem values_perm (dictionary : Dictionary alpha) (key : String) :
    dictionary.values.Perm
      ((dictionary.get? key).toList ++ (dictionary.erase key).values) := by
  have entries := (Entries.perm_erase key dictionary.entries).map Prod.snd
  rw [List.map_append] at entries
  unfold values get?
  cases found : Entries.get? key dictionary.entries with
  | none =>
      rw [found] at entries
      exact entries
  | some value =>
      rw [found] at entries
      exact entries

theorem values_insert_perm (dictionary : Dictionary alpha) (key : String) (value : alpha) :
    (dictionary.insert key value).values.Perm (value :: (dictionary.erase key).values) :=
  (Entries.perm_insert key value dictionary.ascending).map Prod.snd

theorem values_replace_perm {dictionary : Dictionary alpha} {key : String} {old : alpha}
    (found : dictionary.get? key = some old) :
    dictionary.values.Perm (old :: (dictionary.erase key).values) := by
  have split := dictionary.values_perm key
  rw [found] at split
  exact split

/-- A value that comes in, and what it is exchanged for. -/
theorem values_exchange_perm {beta : Type} (read : alpha → beta) (dictionary : Dictionary alpha)
    (key : String) (value : alpha) :
    (read value :: dictionary.values.map read).Perm
      (((dictionary.get? key).map read).toList ++
        (dictionary.insert key value).values.map read) := by
  have old := (dictionary.values_perm key).map read
  have new := (dictionary.values_insert_perm key value).map read
  rw [List.map_append, ← Option.toList_map] at old
  exact ((old.cons _).trans List.perm_middle.symm).trans (new.symm.append_left _)

end Dictionary

theorem perm_exchange {incoming : alpha} {before outgoing after : List alpha}
    (exchange : (incoming :: before).Perm (outgoing ++ after)) (hand rest : List alpha) :
    (incoming :: hand ++ (before ++ rest)).Perm (outgoing ++ hand ++ (after ++ rest)) := by
  have taken : (incoming :: hand ++ (before ++ rest)).Perm
      (hand ++ (incoming :: before ++ rest)) :=
    List.perm_middle.symm
  have exchanged : (hand ++ (incoming :: before ++ rest)).Perm
      (hand ++ (outgoing ++ after ++ rest)) :=
    (exchange.append_right rest).append_left hand
  have given : (hand ++ (outgoing ++ after ++ rest)).Perm
      (outgoing ++ hand ++ (after ++ rest)) := by
    rw [List.append_assoc, List.append_assoc]
    exact List.perm_append_comm_assoc hand outgoing (after ++ rest)
  exact (taken.trans exchanged).trans given

end Collections

/-! ## Ledgers -/

variable {sigma pi : Type}

/-- The managers, and the pagers that are held: the place of the manager with the
ticket. -/
structure Ledger (sigma : Type) where
  managers : List (Manager (Recorded sigma))
  held : List (Nat × Nat)

def Manager.hold {tau : Type} (manager : Manager sigma) (state : tau) : Manager tau :=
  ⟨state, manager.scheme⟩

namespace Ledger

/-- What can happen at once to the pagers that are held. -/
inductive Move (plugin : Plugin sigma pi) : Ledger sigma → Ledger sigma → Prop
  /-- A pager that is held gets a request and stays held. -/
  | asked {managers : List (Manager (Recorded sigma))} {held : List (Nat × Nat)}
      {place ticket : Nat} {manager : Manager (Recorded sigma)}
      (there : managers[place]? = some manager) (holds : (place, ticket) ∈ held)
      {call : PagerCall} (keeps : call ≠ .close) (pager : pi) :
      Move plugin ⟨managers, held⟩
        ⟨managers.set place (manager.hold (manager.state.noted plugin ticket call pager)),
          held⟩
  /-- A pager is closed and no longer held. -/
  | closed {managers : List (Manager (Recorded sigma))} {held : List (Nat × Nat)}
      {place ticket : Nat} {manager : Manager (Recorded sigma)}
      (there : managers[place]? = some manager) (pager : pi) :
      Move plugin ⟨managers, (place, ticket) :: held⟩
        ⟨managers.set place (manager.hold (manager.state.noted plugin ticket .close pager)),
          held⟩
  /-- A pager of a manager that is not there is no longer held. -/
  | lost {managers : List (Manager (Recorded sigma))} {held : List (Nat × Nat)}
      {place ticket : Nat} (absent : managers[place]? = none) :
      Move plugin ⟨managers, (place, ticket) :: held⟩ ⟨managers, held⟩
  /-- The order in which pagers are held does not matter. -/
  | reordered {managers : List (Manager (Recorded sigma))} {held later : List (Nat × Nat)}
      (same : held.Perm later) : Move plugin ⟨managers, held⟩ ⟨managers, later⟩

/-- What can happen one after the other to the pagers that are held. -/
def Moves (plugin : Plugin sigma pi) : Ledger sigma → Ledger sigma → Prop :=
  Relation.ReflTransGen (Move plugin)

/-- The manager at a place delivers so many pagers, each with a new ticket. -/
inductive Delivers (plugin : Plugin sigma pi) (place : Nat) :
    Nat → Ledger sigma → Ledger sigma → Prop
  | nothing (ledger : Ledger sigma) : Delivers plugin place 0 ledger ledger
  | pagers {managers : List (Manager (Recorded sigma))} {held : List (Nat × Nat)}
      {manager : Manager (Recorded sigma)} (there : managers[place]? = some manager)
      (query : PagerQuery) (rule : AnswerRule) (count : Nat) :
      Delivers plugin place count ⟨managers, held⟩
        ⟨managers.set place
            (manager.hold
              ⟨((query.make plugin manager.state.state).transcript rule.onOutlines []).2.state,
                manager.state.delivered + count, manager.state.record⟩),
          (List.range' manager.state.delivered count).map (fun ticket => (place, ticket)) ++
            held⟩

/-- What an operation does. -/
def Acts (plugin : Plugin sigma pi) (place count : Nat) (first second : Ledger sigma) :
    Prop :=
  ∃ middle, Delivers plugin place count first middle ∧ Moves plugin middle second

variable {plugin : Plugin sigma pi} {first second third : Ledger sigma}

theorem Moves.none (ledger : Ledger sigma) : Moves plugin ledger ledger :=
  Relation.ReflTransGen.refl

theorem Move.one (move : Move plugin first second) : Moves plugin first second :=
  Relation.ReflTransGen.single move

theorem Moves.andThen (moves : Moves plugin first second)
    (later : Moves plugin second third) : Moves plugin first third :=
  Relation.ReflTransGen.trans moves later

theorem Moves.acts (moves : Moves plugin first second) (place : Nat) :
    Acts plugin place 0 first second :=
  ⟨first, .nothing first, moves⟩

end Ledger

/-! ## Requests to one pager -/

/-- A pager got requests, and none of them closed it. -/
inductive Recorded.Asked (plugin : Plugin sigma pi) (ticket : Nat) (start : Recorded sigma) :
    Recorded sigma → Prop
  | none : Asked plugin ticket start start
  | more {held : Recorded sigma} (before : Asked plugin ticket start held) {call : PagerCall}
      (keeps : call ≠ .close) (pager : pi) :
      Asked plugin ticket start (held.noted plugin ticket call pager)

variable {plugin : Plugin sigma pi}

theorem Recorded.Asked.andThen {ticket : Nat} {first second third : Recorded sigma}
    (before : Asked plugin ticket first second) (later : Asked plugin ticket second third) :
    Asked plugin ticket first third := by
  induction later with
  | none =>
      exact before
  | more _ keeps pager inductionHypothesis =>
      exact inductionHypothesis.more keeps pager

theorem set_of_getElem? {alpha : Type} {items : List alpha} {place : Nat} {item : alpha}
    (there : items[place]? = some item) : items.set place item = items := by
  obtain ⟨inside, same⟩ := List.getElem?_eq_some_iff.1 there
  rw [← same, List.set_getElem_self]

theorem Ledger.moves_of_asked {managers : List (Manager (Recorded sigma))}
    {held : List (Nat × Nat)} {place ticket : Nat} {manager : Manager (Recorded sigma)}
    {later : Recorded sigma} (there : managers[place]? = some manager)
    (holds : (place, ticket) ∈ held)
    (asked : Recorded.Asked plugin ticket manager.state later) :
    Moves plugin ⟨managers, held⟩ ⟨managers.set place (manager.hold later), held⟩ := by
  induction asked with
  | none =>
      have same : managers.set place (manager.hold manager.state) = managers :=
        set_of_getElem? there
      rw [same]
      exact Moves.none _
  | @more middle _ call keeps pager inductionHypothesis =>
      have inside := (List.getElem?_eq_some_iff.1 there).1
      have thereThen : (managers.set place (manager.hold middle))[place]? =
          some (manager.hold middle) :=
        List.getElem?_set_self inside
      have move : Move plugin _ _ := Move.asked thereThen holds keeps pager
      rw [List.set_set] at move
      exact inductionHypothesis.andThen move.one

/-! ### Requests that keep a pager -/

namespace Recorded

section Keeping

variable {alpha beta : Type} {ticket : Nat} {ticketOf : alpha → Nat} {further : beta → Nat}

/-- The request may ask the pager with the ticket, does not close it and gives it back. -/
def Keeps (plugin : Plugin sigma pi) (ticket : Nat) (ticketOf : alpha → Nat)
    (request : Request (Recorded sigma) alpha) : Prop :=
  ∀ held, Asked plugin ticket held (request held).state ∧
    ticketOf (request held).answer = ticket

theorem keeps_answer {value : alpha} (same : ticketOf value = ticket) :
    Keeps plugin ticket ticketOf (Request.answer value) :=
  fun _ => ⟨.none, same⟩

theorem Keeps.map {request : Request (Recorded sigma) alpha}
    (keeps : Keeps plugin ticket ticketOf request) {change : alpha → beta}
    (same : ∀ value, further (change value) = ticketOf value) :
    Keeps plugin ticket further fun held => (request held).map change := by
  intro held
  obtain ⟨asked, sameTicket⟩ := keeps held
  exact ⟨asked, (same _).trans sameTicket⟩

theorem Keeps.bind {request : Request (Recorded sigma) alpha}
    (keeps : Keeps plugin ticket ticketOf request)
    {next : alpha → Request (Recorded sigma) beta}
    (later : ∀ value, ticketOf value = ticket → Keeps plugin ticket further (next value)) :
    Keeps plugin ticket further fun held => (request held).bind next := by
  intro held
  obtain ⟨asked, sameTicket⟩ := keeps held
  obtain ⟨askedLater, last⟩ := later _ sameTicket (request held).state
  exact ⟨asked.andThen askedLater, last⟩

/-- The requests to a pager that do not close it. -/
theorem keeps_noting (plugin : Plugin sigma pi) {call : PagerCall} (notClose : call ≠ .close)
    {request : pi → Request sigma (pi × alpha)}
    (serves : ∀ pager state, (request pager state).state = call.served plugin pager state)
    (ticketed : Ticketed pi) :
    Keeps plugin ticketed.ticket (fun answer : Ticketed pi × alpha => answer.1.ticket)
      (noting call request ticketed) := by
  intro held
  have noted : (noting call request ticketed held).state =
      held.noted plugin ticketed.ticket call ticketed.pager := by
    simp only [noting, Recorded.noted, serves]
  rw [noted]
  exact ⟨Asked.none.more notClose _, rfl⟩

theorem keeps_pagerHasNext (plugin : Plugin sigma pi) (ticketed : Ticketed pi) :
    Keeps plugin ticketed.ticket (fun answer : Ticketed pi × Outcome Bool => answer.1.ticket)
      (plugin.recorded.pagerHasNext ticketed) :=
  keeps_noting plugin (by decide : PagerCall.hasNext ≠ .close) (fun _ _ => rfl) ticketed

theorem keeps_pagerGet (plugin : Plugin sigma pi) (ticketed : Ticketed pi) :
    Keeps plugin ticketed.ticket
      (fun answer : Ticketed pi × Outcome (List EntityReference) => answer.1.ticket)
      (plugin.recorded.pagerGet ticketed) :=
  keeps_noting plugin (by decide : PagerCall.get ≠ .close) (fun _ _ => rfl) ticketed

theorem keeps_pagerNext (plugin : Plugin sigma pi) (ticketed : Ticketed pi) :
    Keeps plugin ticketed.ticket (fun answer : Ticketed pi × Outcome Unit => answer.1.ticket)
      (plugin.recorded.pagerNext ticketed) :=
  keeps_noting plugin (by decide : PagerCall.next ≠ .close) (fun _ _ => rfl) ticketed

theorem keeps_fetch (plugin : Plugin sigma pi) (ticketed : Ticketed pi) :
    Keeps plugin ticketed.ticket
      (fun answer : Pages (Ticketed pi) × Option (Outcome (List EntityReference)) =>
        answer.1.pager.ticket)
      (Pages.fetch plugin.recorded ticketed) := by
  apply (keeps_pagerGet plugin ticketed).map
  rintro ⟨after, error | _ | page⟩ <;> rfl

theorem keeps_next (plugin : Plugin sigma pi) (walk : Pages (Ticketed pi)) :
    Keeps plugin walk.pager.ticket
      (fun answer : Pages (Ticketed pi) × Option (Outcome (List EntityReference)) =>
        answer.1.pager.ticket)
      (Pages.next plugin.recorded walk) := by
  obtain ⟨ticketed, started, finished⟩ := walk
  cases finished with
  | true =>
      exact keeps_answer rfl
  | false =>
      cases started with
      | false =>
          exact keeps_fetch plugin ticketed
      | true =>
          simp only [Pages.next, Bool.false_eq_true, ↓reduceIte]
          apply (keeps_pagerHasNext plugin ticketed).bind
          rintro ⟨asked, error | _ | _⟩ sameTicket
          · exact keeps_answer sameTicket
          · exact keeps_answer sameTicket
          · have moves := keeps_pagerNext plugin asked
            rw [sameTicket] at moves
            apply moves.bind
            rintro ⟨moved, error | _⟩ stillSame
            · exact keeps_answer stillSame
            · have fetches := keeps_fetch plugin moved
              rw [stillSame] at fetches
              exact fetches

theorem keeps_take (plugin : Plugin sigma pi) (limit : Nat) (walk : Pages (Ticketed pi)) :
    Keeps plugin walk.pager.ticket
      (fun answer : Pages (Ticketed pi) × List (Outcome (List EntityReference)) =>
        answer.1.pager.ticket)
      (Pages.take plugin.recorded limit walk) := by
  induction limit generalizing walk with
  | zero =>
      exact keeps_answer rfl
  | succ limit inductionHypothesis =>
      unfold Pages.take
      apply (keeps_next plugin walk).bind
      rintro ⟨after, item | item⟩ sameTicket
      · exact keeps_answer sameTicket
      · have rest := inductionHypothesis after
        rw [sameTicket] at rest
        exact rest.map fun _ => rfl

end Keeping
end Recorded
end AssetExchange
