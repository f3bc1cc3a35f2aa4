import AssetExchange.Proofs.Manager.Uses
import AssetExchange.Proofs.Pager.Record

/-!
# Paging through what is related

A catalogue answers a query for related references with a pager for each element.  The
list of references is cut into pages (`PagesOf`); from wherever the pager stands, a walk
yields the pages from there on, each once and in order, and then ends
(`take_ofPager`).  Neither the walk nor a request to the pager changes the catalogue, and
none of their replies depends on it, so other requests may come in between.
-/

namespace AssetExchange

/-! ## Pages of a list -/

/-- The list cut into pages from the front: no page is empty, only the last may be
short, and there are no more than needed. -/
structure PagesOf {alpha : Type} (items : List alpha) (size : Nat)
    (pages : List (List alpha)) : Prop where
  together : pages.flatten = items
  nonempty : ∀ page ∈ pages, page ≠ []
  bounded : ∀ page ∈ pages, page.length ≤ size
  full : ∀ page ∈ pages.dropLast, page.length = size
  number : pages.length = (items.length + (size - 1)) / size

section Chunks

variable {alpha : Type} {size : Nat} {items page : List alpha}

theorem length_le_of_mem_chunks (positive : 0 < size) (member : page ∈ chunks size items) :
    page.length ≤ size := by
  fun_induction chunks size items with
  | case1 =>
      cases member
  | case2 first rest inductionHypothesis =>
      rcases List.mem_cons.1 member with here | later
      · subst here
        rw [List.length_cons, List.length_take]
        omega
      · exact inductionHypothesis later

theorem length_of_mem_dropLast_chunks (positive : 0 < size)
    (member : page ∈ (chunks size items).dropLast) : page.length = size := by
  fun_induction chunks size items with
  | case1 =>
      cases member
  | case2 first rest inductionHypothesis =>
      by_cases last : chunks size (rest.drop (size - 1)) = []
      · rw [last] at member
        cases member
      · rw [List.dropLast_cons_of_ne_nil last] at member
        rcases List.mem_cons.1 member with here | later
        · -- A further page needs further items, so this one is full.
          have more : rest.drop (size - 1) ≠ [] := by
            intro nothing
            rw [nothing, chunks_nil] at last
            exact last rfl
          have longer : size - 1 < rest.length := by
            by_contra short
            exact more (List.drop_eq_nil_of_le (by omega))
          rw [here, List.length_cons, List.length_take]
          omega
        · exact inductionHypothesis later

theorem length_chunks (positive : 0 < size) (items : List alpha) :
    (chunks size items).length = (items.length + (size - 1)) / size := by
  fun_induction chunks size items with
  | case1 =>
      have below : 0 + (size - 1) < size := by omega
      exact (Nat.div_eq_of_lt below).symm
  | case2 first rest inductionHypothesis =>
      rw [List.length_cons, inductionHypothesis, List.length_drop, List.length_cons]
      have oneMore : rest.length + 1 + (size - 1) = rest.length + size := by omega
      rw [oneMore, Nat.add_div_right rest.length positive]
      by_cases short : rest.length < size - 1
      · have none : rest.length - (size - 1) + (size - 1) < size := by omega
        rw [Nat.div_eq_of_lt none, Nat.div_eq_of_lt (by omega)]
      · have same : rest.length - (size - 1) + (size - 1) = rest.length := by omega
        rw [same]

theorem pagesOf_chunks (positive : 0 < size) (items : List alpha) :
    PagesOf items size (chunks size items) := by
  constructor
  case together =>
      exact flatten_chunks size items
  case nonempty =>
      intro page member
      exact ne_nil_of_mem_chunks member
  case bounded =>
      intro page member
      exact length_le_of_mem_chunks positive member
  case full =>
      intro page member
      exact length_of_mem_dropLast_chunks positive member
  case number =>
      exact length_chunks positive items

end Chunks

/-! ## Requests to a pager -/

/-- The pager after a request that the manager serves in the given state. -/
def PagerCall.after {sigma pi : Type} (plugin : Plugin sigma pi) (state : sigma)
    (pager : pi) : PagerCall → pi
  | hasNext => (plugin.pagerHasNext pager state).answer.1
  | get => (plugin.pagerGet pager state).answer.1
  | next => (plugin.pagerNext pager state).answer.1
  | close => pager

/-- The pager after a list of requests, oldest first.  The state in which each of them is
served is given with it: between two requests anything may happen to the manager. -/
def Plugin.pagerAfter {sigma pi : Type} (plugin : Plugin sigma pi)
    (requests : List (PagerCall × sigma)) (pager : pi) : pi :=
  requests.foldl (fun held request => request.1.after plugin request.2 held) pager

namespace Catalogue

/-- How often a list of requests moves the pager on. -/
def moves (requests : List (PagerCall × Catalogue)) : Nat :=
  requests.countP fun request => request.1 = .next

theorem moves_cons (call : PagerCall) (state : Catalogue)
    (rest : List (PagerCall × Catalogue)) :
    moves ((call, state) :: rest) = (if call = .next then 1 else 0) + moves rest := by
  by_cases next : call = .next
  · simp [moves, next, Nat.add_comm]
  · simp [moves, next]

theorem pagerAfter_eq (requests : List (PagerCall × Catalogue)) (pager : CataloguePager) :
    plugin.pagerAfter requests pager =
      { pager with current := pager.current + moves requests } := by
  induction requests generalizing pager with
  | nil =>
      rfl
  | cons request rest inductionHypothesis =>
      obtain ⟨call, state⟩ := request
      have later := inductionHypothesis (call.after plugin state pager)
      have first : call.after plugin state pager =
          { pager with current := pager.current + if call = .next then 1 else 0 } := by
        cases call <;> rfl
      rw [moves_cons, ← Nat.add_assoc]
      rw [first] at later
      rw [Plugin.pagerAfter, List.foldl_cons, first]
      exact later

/-! ## Walks -/

/-- The pages that a walk has not yielded yet. -/
def ahead (walk : Pages CataloguePager) : List (List EntityReference) :=
  if walk.finished then []
  else if walk.started then walk.pager.pages.drop (walk.pager.current + 1)
  else walk.pager.pages.drop walk.pager.current

/-- The reply to a step of a walk: the page that comes first, or nothing once there is
none. -/
inductive Walked (walk : Pages CataloguePager) (state : Catalogue) :
    Reply Catalogue (Pages CataloguePager × Option (Outcome (List EntityReference))) → Prop
  | ended {last : Pages CataloguePager} (nothing : ahead walk = [])
      (finished : last.finished = true) : Walked walk state ⟨(last, none), state, []⟩
  | page {page : List EntityReference} {later : Pages CataloguePager}
      (split : ahead walk = page :: ahead later)
      (samePages : later.pager.pages = walk.pager.pages) :
      Walked walk state ⟨(later, some (.ok page)), state, []⟩

section Walking

variable {walk : Pages CataloguePager}

theorem getElem?_getD_eq_nil_iff {pages : List (List EntityReference)}
    (nonempty : ∀ page ∈ pages, page ≠ []) (place : Nat) :
    pages[place]?.getD [] = [] ↔ pages.length ≤ place := by
  by_cases inside : place < pages.length
  · have held := nonempty pages[place] (List.getElem_mem inside)
    rw [List.getElem?_eq_getElem inside, Option.getD_some]
    constructor
    · intro empty
      exact absurd empty held
    · intro outside
      omega
  · have outside : pages.length ≤ place := by omega
    rw [List.getElem?_eq_none outside]
    simp [outside]

/-- Fetching yields the current page, if the pager stands at one. -/
theorem walked_fetch (pager : CataloguePager) (nonempty : ∀ page ∈ pager.pages, page ≠ [])
    (samePages : pager.pages = walk.pager.pages)
    (here : ahead walk = pager.pages.drop pager.current) (state : Catalogue) :
    Walked walk state (Pages.fetch plugin pager state) := by
  have got : plugin.pagerGet pager state = ⟨(pager, .ok pager.page), state, []⟩ := rfl
  rw [Pages.fetch, got]
  by_cases inside : pager.current < pager.pages.length
  · have page : pager.page = pager.pages[pager.current] := by
      rw [CataloguePager.page, List.getElem?_eq_getElem inside, Option.getD_some]
    have held := nonempty _ (List.getElem_mem inside)
    rw [page]
    cases atHand : pager.pages[pager.current] with
    | nil =>
        exact absurd atHand held
    | cons first rest =>
        apply Walked.page
        · rw [here, List.drop_eq_getElem_cons inside, atHand]
          rfl
        · exact samePages
  · have outside : pager.pages.length ≤ pager.current := by omega
    have page : pager.page = [] := (getElem?_getD_eq_nil_iff nonempty _).2 outside
    rw [page]
    apply Walked.ended
    · rw [here, List.drop_eq_nil_of_le outside]
    · rfl

/-- One step of a walk yields the first of the pages that are ahead. -/
theorem walked_next (nonempty : ∀ page ∈ walk.pager.pages, page ≠ []) (state : Catalogue) :
    Walked walk state (Pages.next plugin walk state) := by
  obtain ⟨pager, started, finished⟩ := walk
  cases finished with
  | true =>
      exact Walked.ended rfl rfl
  | false =>
      cases started with
      | false =>
          exact walked_fetch pager nonempty rfl rfl state
      | true =>
          cases more : pager.hasNext with
          | false =>
              have outside : pager.pages.length ≤ pager.current + 1 := by
                simpa [CataloguePager.hasNext] using more
              have stepped : Pages.next plugin ⟨pager, true, false⟩ state =
                  ⟨(⟨pager, true, true⟩, none), state, []⟩ := by
                simp only [Pages.next, plugin, Request.answer, Reply.bind, more]
                rfl
              rw [stepped]
              apply Walked.ended
              · exact List.drop_eq_nil_of_le outside
              · rfl
          | true =>
              have stepped : Pages.next plugin ⟨pager, true, false⟩ state =
                  Pages.fetch plugin pager.next state := by
                simp only [Pages.next, plugin, Request.answer, Reply.bind, more]
                rfl
              rw [stepped]
              exact walked_fetch pager.next nonempty rfl rfl state

/-- A walk yields the pages that are ahead, as many as are asked for.  It ends if more
are asked for than there are. -/
theorem take_eq (nonempty : ∀ page ∈ walk.pager.pages, page ≠ []) (limit : Nat)
    (state : Catalogue) :
    ∃ last : Pages CataloguePager,
      Pages.take plugin limit walk state =
          ⟨(last, ((ahead walk).take limit).map Except.ok), state, []⟩ ∧
        ((ahead walk).length < limit → last.finished = true) := by
  induction limit generalizing walk with
  | zero =>
      refine ⟨walk, rfl, ?_⟩
      intro impossible
      omega
  | succ limit inductionHypothesis =>
      have step := walked_next nonempty state
      simp only [Pages.take]
      generalize Pages.next plugin walk state = reply at step
      cases step with
      | @ended last nothing finished =>
          refine ⟨last, ?_, fun _ => finished⟩
          rw [nothing]
          rfl
      | @page page later split samePages =>
          obtain ⟨last, taken, ends⟩ := inductionHypothesis (samePages ▸ nonempty)
          refine ⟨last, ?_, ?_⟩
          · rw [split]
            simp only [Reply.bind, taken]
            rfl
          · intro enough
            rw [split, List.length_cons] at enough
            apply ends
            omega

end Walking

/-! ## Selecting what is related -/

/-- The list of a relationship trait for a reference, if there is one. -/
def relation? (catalogue : Catalogue) (reference : EntityReference) (trait : String) :
    Option (List EntityReference) :=
  (catalogue.relations.get? reference.text).bind (·.get? trait)

/-- The list of the smallest trait of the relationship that has one, or nothing. -/
inductive Selects (catalogue : Catalogue) (reference : EntityReference)
    (relationship : TraitsData) : List EntityReference → Prop
  | smallest {trait : String} {related : List EntityReference}
      (among : relationship.hasTrait trait = true)
      (listed : catalogue.relation? reference trait = some related)
      (least : ∀ smaller, relationship.hasTrait smaller = true → smaller < trait →
        catalogue.relation? reference smaller = none) :
      Selects catalogue reference relationship related
  | unlisted
      (none : ∀ trait, relationship.hasTrait trait = true →
        catalogue.relation? reference trait = none) :
      Selects catalogue reference relationship []

theorem hasTrait_iff_mem (relationship : TraitsData) (trait : String) :
    relationship.hasTrait trait = true ↔ trait ∈ relationship.traitSet.toList := by
  rw [NameSet.mem_toList_iff, TraitsData.contains_traitSet]

theorem selects_related (catalogue : Catalogue) (reference : EntityReference)
    (relationship : TraitsData) :
    Selects catalogue reference relationship (catalogue.related reference relationship) := by
  have lookUp : ∀ trait,
      ((catalogue.relations.get? reference.text).getD .empty).get? trait =
        catalogue.relation? reference trait := by
    intro trait
    unfold relation?
    cases catalogue.relations.get? reference.text <;> rfl
  have same : catalogue.related reference relationship =
      (relationship.traitSet.toList.findSome? (catalogue.relation? reference)).getD [] := by
    rw [related]
    congr 2
    funext trait
    exact lookUp trait
  rw [same]
  cases found : relationship.traitSet.toList.findSome? (catalogue.relation? reference) with
  | none =>
      rw [List.findSome?_eq_none_iff] at found
      apply Selects.unlisted
      intro trait among
      exact found trait ((hasTrait_iff_mem relationship trait).1 among)
  | some related =>
      obtain ⟨before, trait, after, split, listed, none⟩ :=
        List.findSome?_eq_some_iff.1 found
      have ascending := relationship.traitSet.members.keys_ascending
      change relationship.traitSet.toList.Pairwise (· < ·) at ascending
      have among : relationship.hasTrait trait = true := by
        rw [hasTrait_iff_mem, split]
        simp
      refine Selects.smallest among listed ?_
      intro smaller alsoAmong below
      rw [hasTrait_iff_mem, split] at alsoAmong
      rw [split] at ascending
      exact none smaller (Entries.mem_before_of_ascending id ascending alsoAmong below)

end Catalogue

/-! ## Pagers that were handed out -/

open Catalogue in
/-- A pager that was reported to a host for a reference and a relationship, by either of
the two queries, whatever else was asked for and however errors were answered. -/
inductive HandedOut (manager : Manager Catalogue) (reference : EntityReference)
    (relationship : TraitsData) (pageSize : Nat) : CataloguePager → Prop
  | toMany {references : List EntityReference} {resultTraits : TraitSet}
      {access : RelationsAccess} {context : Context}
      {answer : List (Report CataloguePager) → Flow} {index : Nat} {pager : CataloguePager}
      (asked : references[index]? = some reference)
      (reported : ⟨index, .ok pager⟩ ∈
        ((Manager.relatedToMany plugin references relationship resultTraits pageSize access
          context manager).transcript answer []).1) :
      HandedOut manager reference relationship pageSize pager
  | byMany {relationships : List TraitsData} {resultTraits : TraitSet}
      {access : RelationsAccess} {context : Context}
      {answer : List (Report CataloguePager) → Flow} {index : Nat} {pager : CataloguePager}
      (asked : relationships[index]? = some relationship)
      (reported : ⟨index, .ok pager⟩ ∈
        ((Manager.relatedByMany plugin reference relationships resultTraits pageSize access
          context manager).transcript answer []).1) :
      HandedOut manager reference relationship pageSize pager

/-- What is heard of a catalogue through the host's view is what it has to say about an
element. -/
theorem BatchCall.outcome_of_heard {alpha : Type} (call : BatchCall CataloguePager alpha)
    {answer : List (Report alpha) → Flow} {manager : Manager Catalogue}
    {report : Report alpha}
    (heard : report ∈ ((call.ask Catalogue.plugin manager).transcript answer []).1) :
    call.check = none ∧
      (call.outcomes manager.state)[report.index]? = some report.outcome := by
  cases checked : call.check with
  | some fault =>
      rw [transcript_ask_of_check checked] at heard
      cases heard
  | none =>
      rw [transcript_ask checked] at heard
      cases failure : manager.state.callFailure with
      | some error =>
          rw [call.make_of_callFailure failure] at heard
          cases heard
      | none =>
          obtain ⟨kept, leftOut, split, _, transcript⟩ :=
            call.transcript_make answer manager.state failure
          rw [transcript] at heard
          have reported : report ∈ call.reports manager.state := by
            rw [split]
            exact List.mem_append_left _ heard
          rw [reports, CallbackOrder.mem_arrange_iff] at reported
          obtain ⟨entry, member, rfl⟩ := List.mem_map.1 reported
          exact ⟨rfl, List.mem_zipIdx_iff_getElem?.1 member⟩

section HandedOut

variable {manager : Manager Catalogue} {reference : EntityReference}
  {relationship : TraitsData} {pageSize : Nat} {pager : CataloguePager}

theorem eq_of_unlessError_eq {alpha : Type} {catalogue : Catalogue}
    {outcome : ElementOutcome alpha} {value : alpha}
    (same : catalogue.unlessError reference outcome = .ok value) :
    catalogue.elementErrors.get? reference.text = none ∧ outcome = .ok value := by
  unfold Catalogue.unlessError at same
  split at same
  · cases same
  · exact ⟨by assumption, same⟩

theorem positive_of_check (passed : Manager.checkPageSize pageSize = none) :
    0 < pageSize := by
  by_contra zero
  have zero : pageSize = 0 := by omega
  rw [Manager.checkPageSize, if_pos zero] at passed
  cases passed

theorem HandedOut.pager_eq (handedOut : HandedOut manager reference relationship pageSize pager) :
    0 < pageSize ∧ manager.state.elementErrors.get? reference.text = none ∧
      pager = manager.state.pagerFor reference relationship pageSize := by
  have read : Manager.checkPageSize pageSize = none →
      manager.state.unlessError reference
          (.ok (manager.state.pagerFor reference relationship pageSize)) = .ok pager →
        0 < pageSize ∧ manager.state.elementErrors.get? reference.text = none ∧
          pager = manager.state.pagerFor reference relationship pageSize := by
    intro passed said
    obtain ⟨noError, same⟩ := eq_of_unlessError_eq said
    exact ⟨positive_of_check passed, noError, (Except.ok.inj same).symm⟩
  cases handedOut with
  | @toMany references resultTraits access context answer index _ asked reported =>
      obtain ⟨passed, outcome⟩ := BatchCall.outcome_of_heard
        (.relatedToMany references relationship resultTraits pageSize access context) reported
      change (references.map _)[index]? = some (Except.ok pager) at outcome
      rw [List.getElem?_map, asked] at outcome
      exact read passed (Option.some.inj outcome)
  | @byMany relationships resultTraits access context answer index _ asked reported =>
      obtain ⟨passed, outcome⟩ := BatchCall.outcome_of_heard
        (.relatedByMany reference relationships resultTraits pageSize access context) reported
      change (relationships.map _)[index]? = some (Except.ok pager) at outcome
      rw [List.getElem?_map, asked] at outcome
      exact read passed (Option.some.inj outcome)

/-- A query about one reference hands a pager out, unless the catalogue fails every
query. -/
theorem exists_handedOut (positive : 0 < pageSize)
    (noError : manager.state.elementErrors.get? reference.text = none)
    (noFailure : manager.state.callFailure = none) :
    ∃ pager, HandedOut manager reference relationship pageSize pager := by
  let call : BatchCall CataloguePager CataloguePager :=
    .relatedToMany [reference] relationship .empty pageSize
      ⟨.read, List.mem_cons_self⟩ .empty
  let pager := manager.state.pagerFor reference relationship pageSize
  have passed : call.check = none := by
    change Manager.checkPageSize pageSize = none
    rw [Manager.checkPageSize, if_neg (by omega)]
  obtain ⟨kept, leftOut, split, ends, heard⟩ :=
    call.transcript_make (fun _ => .proceed) manager.state noFailure
  have complete : call.reports manager.state = kept := by
    rw [split, ends.leftOut_eq_nil (fun _ _ _ _ _ => rfl), List.append_nil]
  have said : manager.state.unlessError reference (.ok pager) = .ok pager := by
    rw [Catalogue.unlessError, noError]
  have reported : ⟨0, .ok pager⟩ ∈ call.reports manager.state := by
    rw [BatchCall.reports, CallbackOrder.mem_arrange_iff]
    change _ ∈ [(⟨0, manager.state.unlessError reference (.ok pager)⟩ : Report CataloguePager)]
    rw [said]
    exact List.mem_cons_self
  have asked : [reference][0]? = some reference := rfl
  have handed : ⟨0, .ok pager⟩ ∈
      ((call.ask Catalogue.plugin manager).transcript (fun _ => .proceed) []).1 := by
    rw [BatchCall.transcript_ask passed, heard, ← complete]
    exact reported
  exact ⟨pager, HandedOut.toMany asked handed⟩

end HandedOut

/-! ## The law of paging -/

open Catalogue in
/-- What is said of a pager over the given pages that was moved on `count` times. -/
structure PagingLaw (pages : List (List EntityReference)) (count : Nat)
    (pager : CataloguePager) : Prop where
  /-- A walk yields the pages from there on, and ends if it is asked for more. -/
  collected : ∀ (limit : Nat) (state : Catalogue), ∃ last : Pages CataloguePager,
    Pages.take plugin limit (.ofPager pager) state =
        ⟨(last, ((pages.drop count).take limit).map .ok), state, []⟩ ∧
      (pages.length - count < limit → last.finished = true)
  /-- There is nothing at the end and behind it. -/
  nothing : pages.length ≤ count → ∀ (limit : Nat) (state : Catalogue),
    (Pages.take plugin limit (.ofPager pager) state).answer.2 = []
  /-- The current page is had without changing anything. -/
  got : ∀ state : Catalogue,
    plugin.pagerGet pager state = ⟨(pager, .ok (pages[count]?.getD [])), state, []⟩
  /-- A page follows exactly if there is something to be had after moving on.  Asking for
  it changes nothing. -/
  hasNext_iff : ∀ state later : Catalogue, ∃ more page,
    plugin.pagerHasNext pager state = ⟨(pager, .ok more), state, []⟩ ∧
      (plugin.pagerGet (plugin.pagerNext pager state).answer.1 later).answer.2 = .ok page ∧
      (more = true ↔ page ≠ [])

/-- Paging through what is related to a reference loses, repeats and reorders nothing. -/
theorem paging_exact (manager : Manager Catalogue) (reference : EntityReference)
    (relationship : TraitsData) (pageSize : Nat) (positive : 0 < pageSize)
    (noError : manager.state.elementErrors.get? reference.text = none) :
    (manager.state.callFailure = none →
      ∃ pager, HandedOut manager reference relationship pageSize pager) ∧
    ∀ pager, HandedOut manager reference relationship pageSize pager →
      let related := manager.state.related reference relationship
      manager.state.Selects reference relationship related ∧
        PagesOf related pageSize (chunks pageSize related) ∧
        ∀ requests : List (PagerCall × Catalogue),
          PagingLaw (chunks pageSize related) (Catalogue.moves requests)
            (Catalogue.plugin.pagerAfter requests pager) := by
  refine ⟨exists_handedOut positive noError, ?_⟩
  intro pager handedOut related
  obtain ⟨_, _, rfl⟩ := handedOut.pager_eq
  have cut : PagesOf related pageSize (chunks pageSize related) :=
    pagesOf_chunks positive related
  refine ⟨Catalogue.selects_related _ _ _, cut, ?_⟩
  intro requests
  have moved : Catalogue.plugin.pagerAfter requests
        (manager.state.pagerFor reference relationship pageSize) =
      ⟨chunks pageSize related, Catalogue.moves requests⟩ := by
    rw [Catalogue.pagerAfter_eq]
    change CataloguePager.mk _ (0 + _) = _
    rw [Nat.zero_add]
    rfl
  rw [moved]
  have taken : ∀ (limit : Nat) (state : Catalogue), ∃ last : Pages CataloguePager,
      Pages.take Catalogue.plugin limit
          (.ofPager ⟨chunks pageSize related, Catalogue.moves requests⟩) state =
        ⟨(last, (((chunks pageSize related).drop (Catalogue.moves requests)).take
          limit).map .ok), state, []⟩ ∧
      ((chunks pageSize related).length - Catalogue.moves requests < limit →
        last.finished = true) := by
    intro limit state
    rw [← List.length_drop]
    exact Catalogue.take_eq cut.nonempty limit state
  constructor
  case collected =>
      exact taken
  case nothing =>
      intro outside limit state
      obtain ⟨last, collected, _⟩ := taken limit state
      rw [collected, List.drop_eq_nil_of_le outside, List.take_nil]
      rfl
  case got =>
      intro state
      rfl
  case hasNext_iff =>
      intro state later
      refine ⟨_, _, rfl, rfl, ?_⟩
      have reached := Catalogue.getElem?_getD_eq_nil_iff cut.nonempty
        (Catalogue.moves requests + 1)
      change decide (Catalogue.moves requests + 1 < (chunks pageSize related).length) =
          true ↔ (chunks pageSize related)[Catalogue.moves requests + 1]?.getD [] ≠ []
      rw [decide_eq_true_eq, Ne, reached]
      omega

/-- A catalogue in which three references are related to another one. -/
def albums : Manager Catalogue :=
  .ofState ((Catalogue.named "stock").withRelations "a" "album" [⟨"b"⟩, ⟨"c"⟩, ⟨"d"⟩])

/-- In pages of two, the one page that is left after moving on holds the last of the three
references. -/
theorem paging_exact_albums :
    0 < 2 ∧ albums.state.elementErrors.get? "a" = none ∧
      ∃ pager last,
        HandedOut albums ⟨"a"⟩ (TraitsData.empty.addTrait "album") 2 pager ∧
          Pages.take Catalogue.plugin 5
              (.ofPager (Catalogue.plugin.pagerAfter [(.next, albums.state)] pager))
              albums.state =
            ⟨(last, [.ok [⟨"d"⟩]]), albums.state, []⟩ ∧
          last.finished = true := by
  obtain ⟨handsOut, law⟩ := paging_exact albums ⟨"a"⟩ (TraitsData.empty.addTrait "album") 2
    (by omega) rfl
  obtain ⟨pager, handedOut⟩ := handsOut rfl
  obtain ⟨_, _, paging⟩ := law pager handedOut
  have related : albums.state.related ⟨"a"⟩ (TraitsData.empty.addTrait "album") =
      [⟨"b"⟩, ⟨"c"⟩, ⟨"d"⟩] := by
    decide
  have pages : chunks 2 (albums.state.related ⟨"a"⟩ (TraitsData.empty.addTrait "album")) =
      [[⟨"b"⟩, ⟨"c"⟩], [⟨"d"⟩]] := by
    rw [related]
    simp [chunks_cons]
  obtain ⟨last, collected, ends⟩ :=
    (paging [(.next, albums.state)]).collected 5 albums.state
  rw [pages] at collected ends
  exact ⟨by omega, rfl, pager, last, handedOut, collected, ends (by decide)⟩

end AssetExchange
