import AssetExchange.Proofs.Pager.Record

/-!
# The protocol of a walk

A walk over the pages of a pager is a sequence of calls (`PagesRound`), in each of which it
makes requests of the pager and yields an item.  What is said here holds of every pager,
whatever it answers and whatever happens to its manager between two calls.

`Made` lists what a call can do while the walk goes on: it fetches the first page, or asks
whether a page follows, moves there and fetches it, and stops where that is of no use.
`Walked` puts the calls together: a call that yields no page ends the walk, and the calls
after it do nothing.  `PagesLaw` is what a host can rely on.
-/

namespace AssetExchange

variable {sigma pi alpha : Type}

/-! ## What a pager is asked and answers -/

/-- A request to a pager and its answer. -/
inductive PagerExchange
  | hasNext (answer : Outcome Bool)
  | get (answer : Outcome (List EntityReference))
  | next (answer : Outcome Unit)
  | close

def errorOf? : Outcome alpha → Option ApiError
  | .error error => some error
  | .ok _ => none

namespace PagerExchange

def call : PagerExchange → PagerCall
  | hasNext _ => .hasNext
  | get _ => .get
  | next _ => .next
  | close => .close

/-- The page that was fetched, unless it is empty. -/
def page? : PagerExchange → Option (List EntityReference)
  | get (.ok (first :: rest)) => some (first :: rest)
  | _ => none

/-- The error of a request that failed. -/
def failure? : PagerExchange → Option ApiError
  | hasNext (.error error) => some error
  | get (.error error) => some error
  | next (.error error) => some error
  | _ => none

/-- What a walk yields for the request: a page that is not empty, or an error. -/
def item? : PagerExchange → Option (Outcome (List EntityReference))
  | hasNext (.error error) => some (.error error)
  | get (.error error) => some (.error error)
  | get (.ok (first :: rest)) => some (.ok (first :: rest))
  | next (.error error) => some (.error error)
  | _ => none

/-- Whether nothing can come after the request: no page follows, or it failed. -/
def stops : PagerExchange → Bool
  | hasNext (.ok false) => true
  | exchange => exchange.failure?.isSome

theorem filterMap_page? (exchanges : List PagerExchange) :
    exchanges.filterMap page? = (exchanges.filterMap item?).filterMap Except.toOption := by
  rw [List.filterMap_filterMap]
  congr 1
  funext exchange
  rcases exchange with (_ | _) | (_ | _ | _) | (_ | _) | _ <;> rfl

theorem filterMap_failure? (exchanges : List PagerExchange) :
    exchanges.filterMap failure? = (exchanges.filterMap item?).filterMap errorOf? := by
  rw [List.filterMap_filterMap]
  congr 1
  funext exchange
  rcases exchange with (_ | _) | (_ | _ | _) | (_ | _) | _ <;> rfl

end PagerExchange

/-- A manager with a record of what its pagers were asked. -/
structure Overheard (sigma : Type) where
  state : sigma
  exchanges : List PagerExchange

/-- Makes a request of a pager and records it. -/
def Overheard.noting (note : Outcome alpha → PagerExchange)
    (request : pi → Request sigma (pi × Outcome alpha)) :
    pi → Request (Overheard sigma) (pi × Outcome alpha) :=
  fun pager held =>
    let reply := request pager held.state
    ⟨reply.answer, ⟨reply.state, held.exchanges ++ [note reply.answer.2]⟩, reply.messages⟩

/-- The pagers of a manager, with a record of what they are asked.  Of the other requests
nothing is kept. -/
def Plugin.overheard (plugin : Plugin sigma pi) : Plugin (Overheard sigma) pi :=
  { Plugin.minimal (fun held => plugin.identifier held.state)
      (fun held => plugin.displayName held.state)
      (fun held => plugin.hasCapability held.state) (fun _ => .answer false) with
    pagerHasNext := Overheard.noting .hasNext plugin.pagerHasNext
    pagerGet := Overheard.noting .get plugin.pagerGet
    pagerNext := Overheard.noting .next plugin.pagerNext
    pagerClose := fun pager held =>
      let reply := plugin.pagerClose pager held.state
      ⟨(), ⟨reply.state, held.exchanges ++ [.close]⟩, reply.messages⟩ }

/-! ## Calls of a walk -/

/-- A call of a walk: what it asked of the pager and what it yielded. -/
structure PagesRound where
  exchanges : List PagerExchange
  item : Option (Outcome (List EntityReference))

namespace PagesRound

def page? (round : PagesRound) : Option (List EntityReference) :=
  match round.item with
  | some (.ok page) => some page
  | _ => none

def failure? (round : PagesRound) : Option ApiError :=
  match round.item with
  | some (.error error) => some error
  | _ => none

def silent : PagesRound := ⟨[], none⟩

theorem filterMap_page? (rounds : List PagesRound) :
    rounds.filterMap page? = (rounds.filterMap item).filterMap Except.toOption := by
  rw [List.filterMap_filterMap]
  congr 1
  funext round
  rcases round with ⟨exchanges, _ | _ | _⟩ <;> rfl

theorem filterMap_failure? (rounds : List PagesRound) :
    rounds.filterMap failure? = (rounds.filterMap item).filterMap errorOf? := by
  rw [List.filterMap_filterMap]
  congr 1
  funext round
  rcases round with ⟨exchanges, _ | _ | _⟩ <;> rfl

end PagesRound

namespace Pages

/-- What a call asks of the pager, when the manager is in the given state. -/
def exchanges (plugin : Plugin sigma pi) (walk : Pages pi) (state : sigma) :
    List PagerExchange :=
  (Pages.next plugin.overheard walk ⟨state, []⟩).state.exchanges

/-- The calls of a walk.  Each is made of the manager in a state of its own: between two
calls anything may happen to the manager. -/
def rounds (plugin : Plugin sigma pi) : List sigma → Pages pi → List PagesRound
  | [], _ => []
  | state :: rest, walk =>
      let reply := Pages.next plugin walk state
      ⟨exchanges plugin walk state, reply.answer.2⟩ :: rounds plugin rest reply.answer.1

/-- Everything the pager is asked by the calls of a walk and by letting it go at last. -/
def lifetime (plugin : Plugin sigma pi) (last : sigma) :
    List sigma → Pages pi → List PagerExchange
  | [], walk => (plugin.overheard.pagerClose walk.pager ⟨last, []⟩).state.exchanges
  | state :: rest, walk =>
      exchanges plugin walk state ++
        lifetime plugin last rest (Pages.next plugin walk state).answer.1

end Pages

/-- What fetching a page asks and yields. -/
inductive Fetched : PagesRound → Prop
  | page {first : EntityReference} {rest : List EntityReference} :
      Fetched ⟨[.get (.ok (first :: rest))], some (.ok (first :: rest))⟩
  | empty : Fetched ⟨[.get (.ok [])], none⟩
  | failed {error : ApiError} : Fetched ⟨[.get (.error error)], some (.error error)⟩

/-- What a call asks and yields before the walk is over, given whether a page has been
fetched before. -/
inductive Made : Bool → PagesRound → Prop
  | first {round : PagesRound} (fetched : Fetched round) : Made false round
  | later {round : PagesRound} (fetched : Fetched round) :
      Made true ⟨.hasNext (.ok true) :: .next (.ok ()) :: round.exchanges, round.item⟩
  | last : Made true ⟨[.hasNext (.ok false)], none⟩
  | unasked {error : ApiError} : Made true ⟨[.hasNext (.error error)], some (.error error)⟩
  | unmoved {error : ApiError} :
      Made true ⟨[.hasNext (.ok true), .next (.error error)], some (.error error)⟩

/-- Fetching asks for the current page once, after whatever was asked before. -/
theorem fetched_fetch (plugin : Plugin sigma pi) (pager : pi) (state : sigma)
    (before : List PagerExchange) :
    ∃ round, Fetched round ∧
      (Pages.fetch plugin.overheard pager ⟨state, before⟩).state.exchanges =
        before ++ round.exchanges ∧
      (Pages.fetch plugin pager state).answer.2 = round.item ∧
      (Pages.fetch plugin pager state).answer.1.started = true ∧
      (Pages.fetch plugin pager state).answer.1.finished = round.page?.isNone := by
  have overheard : plugin.overheard.pagerGet pager ⟨state, before⟩ =
      ⟨(plugin.pagerGet pager state).answer,
        ⟨(plugin.pagerGet pager state).state,
          before ++ [.get (plugin.pagerGet pager state).answer.2]⟩,
        (plugin.pagerGet pager state).messages⟩ :=
    rfl
  unfold Pages.fetch
  rw [overheard]
  generalize plugin.pagerGet pager state = reply
  obtain ⟨⟨asked, answer⟩, after, messages⟩ := reply
  rcases answer with error | _ | ⟨first, rest⟩
  · exact ⟨_, .failed, rfl, rfl, rfl, rfl⟩
  · exact ⟨_, .empty, rfl, rfl, rfl, rfl⟩
  · exact ⟨_, .page, rfl, rfl, rfl, rfl⟩

/-- A call of a walk that is not over. -/
theorem made_next (plugin : Plugin sigma pi) {walk : Pages pi}
    (unfinished : walk.finished = false) (state : sigma) :
    ∃ round, Made walk.started round ∧
      Pages.exchanges plugin walk state = round.exchanges ∧
      (Pages.next plugin walk state).answer.2 = round.item ∧
      (Pages.next plugin walk state).answer.1.started = true ∧
      (Pages.next plugin walk state).answer.1.finished = round.page?.isNone := by
  obtain ⟨pager, started, finished⟩ := walk
  cases unfinished
  cases started with
  | false =>
      obtain ⟨round, fetched, same⟩ := fetched_fetch plugin pager state []
      exact ⟨round, .first fetched, same⟩
  | true =>
      have overheard : plugin.overheard.pagerHasNext pager ⟨state, []⟩ =
          ⟨(plugin.pagerHasNext pager state).answer,
            ⟨(plugin.pagerHasNext pager state).state,
              [.hasNext (plugin.pagerHasNext pager state).answer.2]⟩,
            (plugin.pagerHasNext pager state).messages⟩ :=
        rfl
      simp only [Pages.exchanges, Pages.next, Reply.bind, Bool.false_eq_true, if_false, if_true]
      rw [overheard]
      -- Nothing is assumed of a plugin, so any reply may have come.
      generalize plugin.pagerHasNext pager state = reply
      obtain ⟨⟨asked, answer⟩, after, messages⟩ := reply
      rcases answer with error | _ | _
      · exact ⟨_, .unasked, rfl, rfl, rfl, rfl⟩
      · exact ⟨_, .last, rfl, rfl, rfl, rfl⟩
      · have overheard : plugin.overheard.pagerNext asked ⟨after, [.hasNext (.ok true)]⟩ =
            ⟨(plugin.pagerNext asked after).answer,
              ⟨(plugin.pagerNext asked after).state,
                [.hasNext (.ok true), .next (plugin.pagerNext asked after).answer.2]⟩,
              (plugin.pagerNext asked after).messages⟩ :=
          rfl
        dsimp only
        rw [overheard]
        generalize plugin.pagerNext asked after = reply
        obtain ⟨⟨moved, answer⟩, later, moreMessages⟩ := reply
        rcases answer with error | _
        · exact ⟨_, .unmoved, rfl, rfl, rfl, rfl⟩
        · obtain ⟨round, fetched, same⟩ :=
            fetched_fetch plugin moved later [.hasNext (.ok true), .next (.ok ())]
          exact ⟨_, .later fetched, same⟩

/-- A call of a walk that is over. -/
theorem next_of_finished (plugin : Plugin sigma pi) {walk : Pages pi}
    (finished : walk.finished = true) (state : sigma) :
    Pages.exchanges plugin walk state = [] ∧
      (Pages.next plugin walk state).answer = (walk, none) := by
  unfold Pages.exchanges Pages.next
  rw [if_pos finished, if_pos finished]
  exact ⟨rfl, rfl⟩

/-! ## Walks -/

/-- The calls of a walk, given whether a page has been fetched before. -/
inductive Walked : Bool → List PagesRound → Prop
  | nil {started : Bool} : Walked started []
  | page {started : Bool} {round : PagesRound} {later : List PagesRound}
      (made : Made started round) (yields : round.page?.isSome = true)
      (rest : Walked true later) : Walked started (round :: later)
  | ended {started : Bool} {round : PagesRound} {later : List PagesRound}
      (made : Made started round) (yields : round.page? = none)
      (silent : ∀ other ∈ later, other = .silent) : Walked started (round :: later)

theorem rounds_of_finished (plugin : Plugin sigma pi) {walk : Pages pi}
    (finished : walk.finished = true) (states : List sigma) :
    ∀ round ∈ Pages.rounds plugin states walk, round = .silent := by
  induction states with
  | nil =>
      intro round member
      cases member
  | cons state rest inductionHypothesis =>
      obtain ⟨nothing, answered⟩ := next_of_finished plugin finished state
      rw [Pages.rounds, nothing, answered]
      intro round member
      rcases List.mem_cons.1 member with here | later
      · exact here
      · exact inductionHypothesis round later

theorem Pages.length_rounds (plugin : Plugin sigma pi) (states : List sigma)
    (walk : Pages pi) : (rounds plugin states walk).length = states.length := by
  induction states generalizing walk with
  | nil =>
      rfl
  | cons state rest inductionHypothesis =>
      rw [rounds, List.length_cons, List.length_cons, inductionHypothesis]

theorem walked_rounds (plugin : Plugin sigma pi) {walk : Pages pi}
    (unfinished : walk.finished = false) (states : List sigma) :
    Walked walk.started (Pages.rounds plugin states walk) := by
  induction states generalizing walk with
  | nil =>
      exact .nil
  | cons state rest inductionHypothesis =>
      obtain ⟨round, made, asked, yielded, started, finished⟩ :=
        made_next plugin unfinished state
      rw [Pages.rounds, asked, yielded]
      cases page : round.page? with
      | none =>
          rw [page] at finished
          exact .ended made page (rounds_of_finished plugin finished rest)
      | some items =>
          rw [page] at finished
          refine .page made (Option.isSome_iff_exists.2 ⟨items, page⟩) ?_
          rw [← started]
          exact inductionHypothesis finished

/-! ## What follows for the requests to a pager -/

/-- The requests that a walk makes, one after the other: first one for the current page, then
three for each further page. -/
def plannedCalls (started : Bool) : List PagerCall :=
  if started then [.hasNext, .next, .get] else [.get]

/-- The requests of a call are those that were planned, or the first of them, the last of
which showed that nothing more can come; then no page was yielded. -/
inductive PagesRound.Follows (planned : List PagerCall) (round : PagesRound) : Prop
  | complete (same : round.exchanges.map PagerExchange.call = planned)
  | cut {stop : PagerExchange}
      (beginning : round.exchanges.map PagerExchange.call <+: planned)
      (last : round.exchanges.getLast? = some stop) (stops : stop.stops = true)
      (nothing : round.page? = none)

/-- A pager is only moved on after it has just answered that a page follows. -/
def MovedWhenAsked (exchanges : List PagerExchange) : Prop :=
  ∀ before answer after, exchanges = before ++ .next answer :: after →
    before.getLast? = some (.hasNext (.ok true))

def exchangesOf (rounds : List PagesRound) : List PagerExchange :=
  rounds.flatMap PagesRound.exchanges

theorem exchangesOf_cons (round : PagesRound) (later : List PagesRound) :
    exchangesOf (round :: later) = round.exchanges ++ exchangesOf later :=
  List.flatMap_cons

theorem movedWhenAsked_nil : MovedWhenAsked [] := by
  intro before answer after split
  cases before <;> cases split

theorem MovedWhenAsked.append {earlier later : List PagerExchange}
    (asked : MovedWhenAsked earlier) (askedLater : MovedWhenAsked later) :
    MovedWhenAsked (earlier ++ later) := by
  intro before answer after split
  rcases List.append_eq_append_iff.1 split with ⟨middle, rfl, inLater⟩ | ⟨middle, inEarlier, rest⟩
  · have found := askedLater middle answer after inLater
    rw [List.getLast?_append, found]
    rfl
  · cases middle with
    | nil =>
        have found := askedLater [] answer after rest.symm
        cases found
    | cons first others =>
        cases rest
        exact asked before answer others inEarlier

theorem movedWhenAsked_singleton {exchange : PagerExchange} (other : exchange.call ≠ .next) :
    MovedWhenAsked [exchange] := by
  intro before answer after split
  rcases before with _ | ⟨first, _ | ⟨second, rest⟩⟩
  · cases split
    exact absurd rfl other
  · cases split
  · cases split

theorem movedWhenAsked_pair (answer : Outcome Unit) :
    MovedWhenAsked [.hasNext (.ok true), .next answer] := by
  intro before moved after split
  rcases before with _ | ⟨first, _ | ⟨second, _ | ⟨third, rest⟩⟩⟩
  · cases split
  · cases split
    rfl
  · cases split
  · cases split

theorem Fetched.call_eq {round : PagesRound} (fetched : Fetched round) :
    round.exchanges.map PagerExchange.call = [.get] := by
  cases fetched <;> rfl

theorem Fetched.movedWhenAsked {round : PagesRound} (fetched : Fetched round) :
    MovedWhenAsked round.exchanges := by
  cases fetched <;> exact movedWhenAsked_singleton PagerCall.noConfusion

theorem Made.follows {started : Bool} {round : PagesRound} (made : Made started round) :
    round.Follows (plannedCalls started) := by
  cases made with
  | first fetched =>
      exact .complete fetched.call_eq
  | later fetched =>
      refine .complete ?_
      rw [List.map_cons, List.map_cons, fetched.call_eq]
      rfl
  | last =>
      exact .cut ⟨[.next, .get], rfl⟩ rfl rfl rfl
  | unasked =>
      exact .cut ⟨[.next, .get], rfl⟩ rfl rfl rfl
  | unmoved =>
      exact .cut ⟨[.get], rfl⟩ rfl rfl rfl

/-- A call yields what it heard. -/
theorem Made.items {started : Bool} {round : PagesRound} (made : Made started round) :
    round.exchanges.filterMap PagerExchange.item? = round.item.toList := by
  cases made with
  | first fetched =>
      cases fetched <;> rfl
  | later fetched =>
      cases fetched <;> rfl
  | _ =>
      rfl

theorem Made.movedWhenAsked {started : Bool} {round : PagesRound}
    (made : Made started round) : MovedWhenAsked round.exchanges := by
  cases made with
  | first fetched =>
      exact fetched.movedWhenAsked
  | later fetched =>
      exact (movedWhenAsked_pair (.ok ())).append fetched.movedWhenAsked
  | last =>
      exact movedWhenAsked_singleton PagerCall.noConfusion
  | unasked =>
      exact movedWhenAsked_singleton PagerCall.noConfusion
  | unmoved =>
      exact movedWhenAsked_pair _

theorem failure?_of_page {round : PagesRound} (yields : round.page?.isSome = true) :
    round.failure? = none := by
  obtain ⟨exchanges, item⟩ := round
  rcases item with _ | _ | page
  · rfl
  · cases yields
  · rfl

namespace Walked

variable {started : Bool} {rounds : List PagesRound}

theorem exchangesOf_silent (silent : ∀ round ∈ rounds, round = .silent) :
    exchangesOf rounds = [] := by
  apply List.flatMap_eq_nil_iff.2
  intro round member
  rw [silent round member]
  rfl

theorem items_silent (silent : ∀ round ∈ rounds, round = .silent) :
    rounds.filterMap PagesRound.item = [] := by
  apply List.filterMap_eq_nil_iff.2
  intro round member
  rw [silent round member]
  rfl

/-- The whole walk yields what it heard. -/
theorem items (walked : Walked started rounds) :
    rounds.filterMap PagesRound.item = (exchangesOf rounds).filterMap PagerExchange.item? := by
  induction walked with
  | nil =>
      rfl
  | @page started round later made yields rest inductionHypothesis =>
      rw [exchangesOf_cons, List.filterMap_append, made.items, ← inductionHypothesis,
        List.filterMap_cons]
      cases round.item <;> rfl
  | @ended started round later made yields silent =>
      rw [exchangesOf_cons, List.filterMap_append, made.items, exchangesOf_silent silent,
        List.filterMap_cons, items_silent silent]
      cases round.item <;> rfl

theorem pages (walked : Walked started rounds) :
    rounds.filterMap PagesRound.page? =
      (exchangesOf rounds).filterMap PagerExchange.page? := by
  rw [PagesRound.filterMap_page?, walked.items, PagerExchange.filterMap_page?]

theorem failures (walked : Walked started rounds) :
    rounds.filterMap PagesRound.failure? =
      (exchangesOf rounds).filterMap PagerExchange.failure? := by
  rw [PagesRound.filterMap_failure?, walked.items, PagerExchange.filterMap_failure?]

theorem movedWhenAsked (walked : Walked started rounds) :
    MovedWhenAsked (exchangesOf rounds) := by
  induction walked with
  | nil =>
      exact movedWhenAsked_nil
  | page made yields rest inductionHypothesis =>
      rw [exchangesOf_cons]
      exact made.movedWhenAsked.append inductionHypothesis
  | ended made yields silent =>
      rw [exchangesOf_cons, exchangesOf_silent silent, List.append_nil]
      exact made.movedWhenAsked

theorem failures_le_one (walked : Walked started rounds) :
    (rounds.filterMap PagesRound.failure?).length ≤ 1 := by
  induction walked with
  | nil =>
      exact Nat.zero_le 1
  | page made yields rest inductionHypothesis =>
      rw [List.filterMap_cons, failure?_of_page yields]
      exact inductionHypothesis
  | @ended started round later made yields silent =>
      rw [List.filterMap_cons, PagesRound.filterMap_failure? later, items_silent silent]
      cases round.failure? <;> simp

/-- The calls after one that yields no page are silent. -/
theorem silent_after (walked : Walked started rounds) {before after : List PagesRound}
    {round : PagesRound} (split : rounds = before ++ round :: after)
    (nothing : round.page? = none) : ∀ later ∈ after, later = .silent := by
  induction walked generalizing before with
  | nil =>
      cases before <;> cases split
  | page made yields rest inductionHypothesis =>
      cases before with
      | nil =>
          cases split
          rw [nothing] at yields
          cases yields
      | cons first others =>
          cases split
          exact inductionHypothesis rfl
  | ended made yields silent =>
      cases before with
      | nil =>
          cases split
          exact silent
      | cons first others =>
          cases split
          intro later member
          exact silent later (List.mem_append_right _ (List.mem_cons_of_mem _ member))

/-- As long as pages were yielded, the next call follows the plan. -/
theorem follows (walked : Walked started rounds) {before after : List PagesRound}
    {round : PagesRound} (split : rounds = before ++ round :: after)
    (pages : ∀ earlier ∈ before, earlier.page?.isSome = true) :
    round.Follows (plannedCalls (started || !before.isEmpty)) := by
  induction walked generalizing before with
  | nil =>
      cases before <;> cases split
  | page made yields rest inductionHypothesis =>
      cases before with
      | nil =>
          cases split
          rw [List.isEmpty_nil, Bool.not_true, Bool.or_false]
          exact made.follows
      | cons first others =>
          cases split
          have follows := inductionHypothesis rfl fun earlier member =>
            pages earlier (List.mem_cons_of_mem _ member)
          rw [Bool.true_or] at follows
          rw [List.isEmpty_cons, Bool.not_false, Bool.or_true]
          exact follows
  | ended made yields silent =>
      cases before with
      | nil =>
          cases split
          rw [List.isEmpty_nil, Bool.not_true, Bool.or_false]
          exact made.follows
      | cons first others =>
          have some := pages first List.mem_cons_self
          cases split
          rw [yields] at some
          cases some

end Walked

/-! ## The law -/

/-- What a host can rely on when it walks over the pages of a pager. -/
structure PagesLaw (rounds : List PagesRound) : Prop where
  /-- While every call before has yielded a page, a call makes the requests that are planned,
  at least up to one that shows that nothing more can come. -/
  planned : ∀ before round after, rounds = before ++ round :: after →
    (∀ earlier ∈ before, earlier.page?.isSome = true) →
      round.Follows (plannedCalls (!before.isEmpty))
  /-- After a call that yielded nothing or an error, calls ask nothing and yield nothing. -/
  ended : ∀ before round after, rounds = before ++ round :: after → round.page? = none →
    ∀ later ∈ after, later = .silent
  /-- The pages that are yielded are the ones that were fetched, empty ones apart. -/
  pages : rounds.filterMap PagesRound.page? =
    (exchangesOf rounds).filterMap PagerExchange.page?
  /-- The errors that are yielded are those of the requests that failed. -/
  failures : rounds.filterMap PagesRound.failure? =
    (exchangesOf rounds).filterMap PagerExchange.failure?
  failedOnce : (rounds.filterMap PagesRound.failure?).length ≤ 1
  moved : MovedWhenAsked (exchangesOf rounds)

theorem Pages.lifetime_eq (plugin : Plugin sigma pi) (last : sigma) (states : List sigma)
    (walk : Pages pi) :
    lifetime plugin last states walk =
      exchangesOf (rounds plugin states walk) ++ [.close] := by
  induction states generalizing walk with
  | nil =>
      rfl
  | cons state rest inductionHypothesis =>
      rw [lifetime, inductionHypothesis, rounds, exchangesOf_cons, List.append_assoc]

/-- Every walk keeps to the protocol, whatever its pager answers, and after it the pager is
only closed. -/
theorem pages_follow_protocol (plugin : Plugin sigma pi) (pager : pi) (states : List sigma) :
    (Pages.rounds plugin states (.ofPager pager)).length = states.length ∧
      PagesLaw (Pages.rounds plugin states (.ofPager pager)) ∧
      ∀ last, Pages.lifetime plugin last states (.ofPager pager) =
        exchangesOf (Pages.rounds plugin states (.ofPager pager)) ++ [.close] := by
  have walked : Walked false (Pages.rounds plugin states (.ofPager pager)) :=
    walked_rounds plugin (rfl : (Pages.ofPager pager).finished = false) states
  refine ⟨?_, ?_, fun last => Pages.lifetime_eq plugin last states _⟩
  · exact Pages.length_rounds plugin states _
  · constructor
    case planned =>
      intro before round after split pages
      exact walked.follows split pages
    case ended =>
      intro before round after split nothing
      exact walked.silent_after split nothing
    case pages =>
      exact walked.pages
    case failures =>
      exact walked.failures
    case failedOnce =>
      exact walked.failures_le_one
    case moved =>
      exact walked.movedWhenAsked

end AssetExchange
