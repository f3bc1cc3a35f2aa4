import AssetExchange.Proofs.Catalogue.SetUp
import Mathlib.Data.List.Induction

/-!
# The contexts that a host obtains from a catalogue

A host asks for contexts, derives contexts from those that it has, turns them into tokens
and tokens into contexts, and does other things in between.  A `ContextForest` is the
manager together with all contexts that were obtained so far; a context is named by its
place among them, and its place says where it came from.

The states that a catalogue makes are numbered from one on, without gaps, until all words
are used up.  A context has state exactly if the one that it was derived from has, and its
state points to that one's; where nothing was restored or brought in from outside, the
pointers lead to smaller numbers only (`forest_consistent`).

What a catalogue answers depends on the count of its states and on its capabilities at
that moment.  The lemmas of the first part give these answers; the second part follows
what one step does to the forest (`ContextForest.Grown`), and the invariant of a run
(`ContextForest.Rooted`) comes from that alone.
-/

namespace AssetExchange

open Catalogue

/-! ## What a catalogue answers -/

namespace Catalogue

variable {manager : Manager Catalogue}

/-- The manager of a catalogue after a state was made for a request. -/
def made (call : Call) (manager : Manager Catalogue) : Manager Catalogue :=
  { manager with
    state :=
      { manager.state.recordCall call with
        nextState := (manager.state.nextState + 1) % wordLimit } }

theorem createContext_of_stateful
    (stateful : manager.hasCapability plugin .statefulContexts = true) :
    Manager.createContext plugin manager =
      ⟨.ok ⟨.empty, some (.numbered manager.state.nextState none)⟩,
        made .createState manager, []⟩ := by
  simp only [Manager.createContext, stateful]
  rfl

theorem createContext_of_stateless
    (stateless : manager.hasCapability plugin .statefulContexts = false) :
    Manager.createContext plugin manager = ⟨.ok .empty, manager, []⟩ := by
  simp only [Manager.createContext, stateless, Bool.false_eq_true, if_false]

/-- The state of a parent decides, and nothing else does. -/
theorem createChildContext_eq (locale : TraitsData) (state : Option ContextState)
    (manager : Manager Catalogue) :
    Manager.createChildContext plugin ⟨locale, state⟩ manager =
      match state with
      | none => ⟨.ok ⟨locale, none⟩, manager, []⟩
      | some (.numbered number _) =>
          ⟨.ok ⟨locale, some (.numbered manager.state.nextState (some number))⟩,
            made .createChildState manager, []⟩
      | some .foreign =>
          ⟨.error (.inputValidation "Not a stub manager state"),
            { manager with state := manager.state.recordCall .createChildState }, []⟩ := by
  rcases state with _ | ⟨number, parent⟩ | _ <;> rfl

theorem nextState_persistenceToken (context : Context) (manager : Manager Catalogue) :
    (Manager.persistenceToken plugin context manager).state.state.nextState =
      manager.state.nextState := by
  rcases context with ⟨locale, _ | ⟨number, parent⟩ | _⟩ <;> rfl

theorem nextState_contextOfToken (token : String) (manager : Manager Catalogue) :
    (Manager.contextOfToken plugin token manager).state.state.nextState =
      manager.state.nextState := by
  unfold Manager.contextOfToken
  split
  · rfl
  · simp only [Manager.pass, plugin, counting]
    cases tokenNumber? token <;> rfl

theorem steady_nextState : Steady nextState :=
  ⟨fun _ _ => rfl, fun _ _ _ => rfl⟩

theorem nextState_prepare (host : Host) (settings : InfoDictionary)
    (manager : Manager Catalogue) :
    (Manager.prepare plugin host settings manager).state.state.nextState =
      manager.state.nextState := by
  have own : (plugin.prepare host settings manager.state).state.nextState =
      manager.state.nextState := by
    simp only [plugin, counting, Catalogue.prepare]
    split <;> rfl
  unfold Manager.prepare
  dsimp only
  split
  · exact own
  · split
    · exact own
    · exact own

end Catalogue

/-- Whether a use asks for a context that may come with a state of its own. -/
def ManagerUse.asksForContext {pi : Type} : ManagerUse pi → Bool
  | createContext => true
  | createChildContext _ => true
  | _ => false

def ManagerEvent.asksForContext {pi delta : Type} : ManagerEvent pi delta → Bool
  | used use => use.asksForContext
  | changed _ => false

theorem ManagerUse.nextState_after {use : ManagerUse CataloguePager}
    (other : use.asksForContext = false) (manager : Manager Catalogue) :
    (use.after plugin manager).state.nextState = manager.state.nextState := by
  cases use with
  | createContext =>
      cases other
  | createChildContext parent =>
      cases other
  | batch call answer =>
      exact call.view_ask steady_nextState answer manager
  | shape policy operation =>
      rw [after, after_shape]
      cases operation <;> exact BatchCall.view_ask steady_nextState _ _ manager
  | prepare host settings =>
      exact nextState_prepare host settings manager
  | persistenceToken context =>
      exact nextState_persistenceToken context manager
  | contextOfToken token =>
      exact nextState_contextOfToken token manager
  | recognize text | createReference text | createReferenceIfValid text =>
      -- A known scheme keeps the catalogue out of it.
      obtain ⟨state, scheme⟩ := manager
      cases scheme <;> rfl
  | _ =>
      rfl

theorem ManagerEvent.nextState_after
    {event : ManagerEvent CataloguePager (Option ApiError)}
    (other : event.asksForContext = false) (manager : Manager Catalogue) :
    (event.after plugin refusing manager).state.nextState = manager.state.nextState := by
  cases event with
  | used use =>
      exact use.nextState_after other manager
  | changed failure =>
      rfl

/-! ## Forests -/

/-- Where a context came from: the manager made a fresh one, or one derived from the one at
a place, or the one that a token stands for; or it was brought in from outside. -/
inductive ContextOrigin
  | created
  | derived (parent : Nat)
  | restored
  | brought
deriving DecidableEq

/-- Whether the manager makes the state of a context itself. -/
def ContextOrigin.isMade : ContextOrigin → Bool
  | created => true
  | derived _ => true
  | restored => false
  | brought => false

structure HeldContext where
  origin : ContextOrigin
  context : Context
deriving DecidableEq

/-- A held context without its locale, which the host may change. -/
def HeldContext.outline (held : HeldContext) : ContextOrigin × Option ContextState :=
  (held.origin, held.context.state)

def madeState? (outline : ContextOrigin × Option ContextState) : Option ContextState :=
  if outline.1.isMade then outline.2 else none

def ContextState.number? : ContextState → Option Nat
  | numbered number _ => some number
  | foreign => none

/-- A manager and the contexts that were obtained, oldest first. -/
structure ContextForest where
  manager : Manager Catalogue
  held : List HeldContext

/-- What a host does with contexts, which are named by their places, and what it does in
between: using the manager for something else, or making it refuse to be prepared. -/
inductive ContextStep
  | create
  | derive (place : Nat)
  | persist (place : Nat)
  | restore (token : String)
  | bring (context : Context)
  | relocate (place : Nat) (locale : TraitsData)
  | between (event : ManagerEvent CataloguePager (Option ApiError))
      (other : event.asksForContext = false)

namespace ContextForest

/-- Keeps the context that a reply brings, if it brings one. -/
def keep (forest : ContextForest) (origin : ContextOrigin)
    (reply : Reply (Manager Catalogue) (Outcome Context)) : ContextForest :=
  match reply.answer with
  | .ok context => ⟨reply.state, forest.held ++ [⟨origin, context⟩]⟩
  | .error _ => ⟨reply.state, forest.held⟩

/-- The forest after a step.  A place where there is no context changes nothing. -/
def after (forest : ContextForest) : ContextStep → ContextForest
  | .create => forest.keep .created (Manager.createContext plugin forest.manager)
  | .derive place =>
      match forest.held[place]? with
      | some parent =>
          forest.keep (.derived place)
            (Manager.createChildContext plugin parent.context forest.manager)
      | none => forest
  | .persist place =>
      match forest.held[place]? with
      | some held =>
          { forest with
            manager :=
              (Manager.persistenceToken plugin held.context forest.manager).state }
      | none => forest
  | .restore token =>
      forest.keep .restored (Manager.contextOfToken plugin token forest.manager)
  | .bring context => { forest with held := forest.held ++ [⟨.brought, context⟩] }
  | .relocate place locale =>
      { forest with
        held := forest.held.modify place fun held =>
          { held with context := { held.context with locale := locale } } }
  | .between event _ =>
      { forest with manager := event.after plugin refusing forest.manager }

/-- The forest that a host has after some steps, starting without contexts. -/
def grow (manager : Manager Catalogue) (steps : List ContextStep) : ContextForest :=
  steps.foldl after ⟨manager, []⟩

theorem grow_concat (manager : Manager Catalogue) (steps : List ContextStep)
    (step : ContextStep) : grow manager (steps ++ [step]) = (grow manager steps).after step :=
  List.foldl_append

def outlines (forest : ContextForest) : List (ContextOrigin × Option ContextState) :=
  forest.held.map HeldContext.outline

def madeStates (forest : ContextForest) : List ContextState :=
  forest.outlines.filterMap madeState?

/-- A context that goes back to fresh ones alone. -/
inductive Native (forest : ContextForest) : Nat → Prop
  | created {place : Nat} {held : HeldContext} :
      forest.held[place]? = some held → held.origin = .created → Native forest place
  | derived {place parent : Nat} {held : HeldContext} :
      forest.held[place]? = some held → held.origin = .derived parent →
        Native forest parent → Native forest place

/-! ### One step -/

/-- What the origin of a context says about its state, given the contexts before it. -/
def Linked (before : List (ContextOrigin × Option ContextState)) :
    ContextOrigin × Option ContextState → Prop
  | (.created, state) => ∀ made, state = some made → ∃ number, made = .numbered number none
  | (.derived parent, state) =>
      ∃ origin above, before[parent]? = some (origin, above) ∧
        ((above = none ∧ state = none) ∨
          ∃ number further own, above = some (.numbered number further) ∧
            state = some (.numbered own (some number)))
  | _ => True

/-- What one step does to a forest, apart from locales: it adds one context at most, and
takes a number only for a state that is made. -/
inductive Grown (forest later : ContextForest) : Prop
  | kept (outlines : later.outlines = forest.outlines)
      (next : later.manager.state.nextState = forest.manager.state.nextState)
  | added {fresh : ContextOrigin × Option ContextState} (linked : Linked forest.outlines fresh)
      (unmade : madeState? fresh = none) (outlines : later.outlines = forest.outlines ++ [fresh])
      (next : later.manager.state.nextState = forest.manager.state.nextState)
  | numbered {fresh : ContextOrigin × Option ContextState} {above : Option Nat}
      (linked : Linked forest.outlines fresh)
      (made : madeState? fresh = some (.numbered forest.manager.state.nextState above))
      (outlines : later.outlines = forest.outlines ++ [fresh])
      (next : later.manager.state.nextState =
        (forest.manager.state.nextState + 1) % wordLimit)

theorem outlines_append (manager : Manager Catalogue) (held : List HeldContext)
    (fresh : HeldContext) :
    outlines ⟨manager, held ++ [fresh]⟩ = held.map HeldContext.outline ++ [fresh.outline] :=
  List.map_append

theorem grown_create (forest : ContextForest) : forest.Grown (forest.after .create) := by
  cases stateful : forest.manager.hasCapability plugin .statefulContexts with
  | true =>
      rw [after, createContext_of_stateful stateful]
      have linked : Linked forest.outlines
          (.created, some (.numbered forest.manager.state.nextState none)) := by
        rintro made ⟨⟩
        exact ⟨_, rfl⟩
      exact .numbered linked rfl (outlines_append _ _ _) rfl
  | false =>
      rw [after, createContext_of_stateless stateful]
      have linked : Linked forest.outlines (.created, none) := by
        rintro made ⟨⟩
      exact .added linked rfl (outlines_append _ _ _) rfl

theorem grown_derive (forest : ContextForest) (place : Nat) :
    forest.Grown (forest.after (.derive place)) := by
  cases found : forest.held[place]? with
  | none =>
      simp only [after, found]
      exact .kept rfl rfl
  | some parent =>
      obtain ⟨origin, locale, state⟩ := parent
      have source : forest.outlines[place]? = some (origin, state) := by
        simp only [outlines, List.getElem?_map, found]
        rfl
      simp only [after, found, createChildContext_eq]
      rcases state with _ | ⟨number, above⟩ | _
      · refine .added ?_ rfl (outlines_append _ _ _) rfl
        exact ⟨origin, none, source, .inl ⟨rfl, rfl⟩⟩
      · refine .numbered ?_ rfl (outlines_append _ _ _) rfl
        exact ⟨origin, _, source, .inr ⟨number, above, _, rfl, rfl⟩⟩
      · exact .kept rfl rfl

theorem grown_persist (forest : ContextForest) (place : Nat) :
    forest.Grown (forest.after (.persist place)) := by
  cases found : forest.held[place]? with
  | none =>
      simp only [after, found]
      exact .kept rfl rfl
  | some held =>
      simp only [after, found]
      exact .kept rfl (nextState_persistenceToken held.context forest.manager)

theorem grown_restore (forest : ContextForest) (token : String) :
    forest.Grown (forest.after (.restore token)) := by
  have next := nextState_contextOfToken token forest.manager
  simp only [after, keep]
  split
  case _ context answered =>
    have linked : Linked forest.outlines (.restored, context.state) := trivial
    exact .added linked rfl (outlines_append _ _ _) next
  case _ error answered =>
    exact .kept rfl next

theorem outlines_relocate (forest : ContextForest) (place : Nat) (locale : TraitsData) :
    (forest.after (.relocate place locale)).outlines = forest.outlines := by
  apply List.ext_getElem?
  intro other
  simp only [after, outlines, List.getElem?_map, List.getElem?_modify]
  cases forest.held[other]? with
  | none =>
      rfl
  | some held =>
      by_cases same : place = other
      · simp [same, HeldContext.outline]
      · simp [same]

theorem grown_after (forest : ContextForest) (step : ContextStep) :
    forest.Grown (forest.after step) := by
  cases step with
  | create =>
      exact forest.grown_create
  | derive place =>
      exact forest.grown_derive place
  | persist place =>
      exact forest.grown_persist place
  | restore token =>
      exact forest.grown_restore token
  | bring context =>
      have linked : Linked forest.outlines (.brought, context.state) := trivial
      exact .added linked rfl (outlines_append _ _ _) rfl
  | relocate place locale =>
      exact .kept (forest.outlines_relocate place locale) rfl
  | between event other =>
      exact .kept rfl (event.nextState_after other forest.manager)

/-! ### Runs -/

/-- The invariant of a run: the next number is the one after the count of states, which
are numbered in order as long as there are words for them, and every context is linked to
those before it. -/
structure Rooted (forest : ContextForest) : Prop where
  next : forest.manager.state.nextState = (forest.madeStates.length + 1) % wordLimit
  numbers : forest.madeStates.length < wordLimit →
    forest.madeStates.map ContextState.number? =
      (List.range' 1 forest.madeStates.length).map some
  linked : ∀ place outline, forest.outlines[place]? = some outline →
    Linked (forest.outlines.take place) outline

theorem linked_append {outlines : List (ContextOrigin × Option ContextState)}
    {fresh : ContextOrigin × Option ContextState}
    (before : ∀ place outline, outlines[place]? = some outline →
      Linked (outlines.take place) outline)
    (last : Linked outlines fresh) :
    ∀ place outline, (outlines ++ [fresh])[place]? = some outline →
      Linked ((outlines ++ [fresh]).take place) outline := by
  intro place outline found
  rcases Nat.lt_trichotomy place outlines.length with earlier | same | later
  · rw [List.getElem?_append_left earlier] at found
    rw [List.take_append_of_le_length (Nat.le_of_lt earlier)]
    exact before place outline found
  · subst same
    rw [List.getElem?_concat_length] at found
    rw [List.take_left, ← Option.some.inj found]
    exact last
  · have beyond : (outlines ++ [fresh]).length ≤ place := by
      rw [List.length_append, List.length_singleton]
      exact later
    rw [List.getElem?_eq_none beyond] at found
    cases found

theorem madeStates_of_outlines {forest later : ContextForest}
    (same : later.outlines = forest.outlines) : later.madeStates = forest.madeStates :=
  congrArg (List.filterMap madeState?) same

theorem madeStates_of_append {forest later : ContextForest}
    {fresh : ContextOrigin × Option ContextState}
    (added : later.outlines = forest.outlines ++ [fresh]) :
    later.madeStates = forest.madeStates ++ (madeState? fresh).toList := by
  rw [madeStates, madeStates, added, List.filterMap_append]
  cases made : madeState? fresh <;> simp [made]

/-- A step that makes no state keeps the invariant if it links what it adds. -/
theorem Rooted.of_madeStates {forest later : ContextForest} (rooted : forest.Rooted)
    (states : later.madeStates = forest.madeStates)
    (next : later.manager.state.nextState = forest.manager.state.nextState)
    (linked : ∀ place outline, later.outlines[place]? = some outline →
      Linked (later.outlines.take place) outline) : later.Rooted := by
  constructor
  case next =>
    rw [next, states]
    exact rooted.next
  case numbers =>
    rw [states]
    exact rooted.numbers
  case linked =>
    exact linked

theorem Rooted.grown {forest later : ContextForest} (rooted : forest.Rooted)
    (grown : forest.Grown later) : later.Rooted := by
  cases grown with
  | kept outlines next =>
      apply rooted.of_madeStates (madeStates_of_outlines outlines) next
      rw [outlines]
      exact rooted.linked
  | added linked unmade outlines next =>
      have states := madeStates_of_append outlines
      rw [unmade, Option.toList_none, List.append_nil] at states
      apply rooted.of_madeStates states next
      rw [outlines]
      exact linked_append rooted.linked linked
  | @numbered fresh above linked made outlines next =>
      have states := madeStates_of_append outlines
      rw [made, Option.toList_some] at states
      have count : later.madeStates.length = forest.madeStates.length + 1 := by
        rw [states, List.length_append, List.length_singleton]
      constructor
      case next =>
        rw [next, rooted.next, count, Nat.mod_add_mod]
      case numbers =>
        intro bounded
        rw [count] at bounded ⊢
        have own : forest.manager.state.nextState = forest.madeStates.length + 1 := by
          rw [rooted.next, Nat.mod_eq_of_lt bounded]
        rw [states, List.map_append, rooted.numbers (Nat.lt_of_succ_lt bounded), own,
          List.range'_concat, List.map_append, Nat.one_mul, Nat.add_comm 1]
        rfl
      case linked =>
        rw [outlines]
        exact linked_append rooted.linked linked

/-- Every run from a manager that made no state yet keeps the invariant. -/
theorem rooted_grow (manager : Manager Catalogue) (steps : List ContextStep)
    (unused : manager.state.nextState = 1) : (grow manager steps).Rooted := by
  induction steps using List.reverseRecOn with
  | nil =>
      constructor
      case next =>
        exact unused
      case numbers =>
        intro bounded
        rfl
      case linked =>
        intro place outline found
        cases found
  | append_singleton steps step inductionHypothesis =>
      rw [grow_concat]
      exact inductionHypothesis.grown (grown_after _ step)

/-! ### Links between held contexts -/

variable {forest : ContextForest}

theorem getElem?_outlines (forest : ContextForest) (place : Nat) :
    forest.outlines[place]? = forest.held[place]?.map HeldContext.outline :=
  List.getElem?_map

theorem Rooted.root (rooted : forest.Rooted) {place : Nat} {held : HeldContext}
    {state : ContextState} (found : forest.held[place]? = some held)
    (origin : held.origin = .created) (stateful : held.context.state = some state) :
    ∃ number, state = .numbered number none := by
  have outlined : forest.outlines[place]? = some (.created, some state) := by
    rw [getElem?_outlines, found, Option.map_some, HeldContext.outline, origin, stateful]
  exact rooted.linked place _ outlined state rfl

theorem Rooted.link (rooted : forest.Rooted) {place parent : Nat} {held : HeldContext}
    (found : forest.held[place]? = some held) (origin : held.origin = .derived parent) :
    ∃ source, parent < place ∧ forest.held[parent]? = some source ∧
      ((source.context.state = none ∧ held.context.state = none) ∨
        ∃ number above own, source.context.state = some (.numbered number above) ∧
          held.context.state = some (.numbered own (some number))) := by
  have outlined : forest.outlines[place]? = some (.derived parent, held.context.state) := by
    rw [getElem?_outlines, found, Option.map_some, HeldContext.outline, origin]
  obtain ⟨earlier, above, before, states⟩ := rooted.linked place _ outlined
  rw [List.getElem?_take] at before
  split at before
  case isTrue smaller =>
    rw [getElem?_outlines, Option.map_eq_some_iff] at before
    obtain ⟨source, present, outline⟩ := before
    obtain ⟨rfl, rfl⟩ : source.origin = earlier ∧ source.context.state = above := by
      simpa only [HeldContext.outline, Prod.mk.injEq] using outline
    exact ⟨source, smaller, present, states⟩
  case isFalse =>
    cases before

/-- Of two states that were made, the one at the later place has the larger number. -/
theorem Rooted.ascending (rooted : forest.Rooted)
    (bounded : forest.madeStates.length < wordLimit) :
    forest.outlines.Pairwise fun earlier later =>
      ∀ first, (madeState? earlier).bind ContextState.number? = some first →
        ∀ second, (madeState? later).bind ContextState.number? = some second →
          first < second := by
  have numbers : forest.outlines.filterMap
      (fun outline => (madeState? outline).bind ContextState.number?) =
        List.range' 1 forest.madeStates.length := by
    have inOrder := congrArg (List.filterMap id) (rooted.numbers bounded)
    simpa only [madeStates, List.filterMap_map, List.filterMap_filterMap, Function.id_comp,
      Function.comp_id, List.filterMap_some] using inOrder
  have ascending : (List.range' 1 forest.madeStates.length).Pairwise (· < ·) :=
    List.pairwise_lt_range'
  rw [← numbers, List.pairwise_filterMap] at ascending
  exact ascending

/-- The number of a state that was made for a context. -/
theorem madeNumber_of_held {place number : Nat} {held : HeldContext} {above : Option Nat}
    (found : forest.held[place]? = some held) (made : held.origin.isMade = true)
    (stateful : held.context.state = some (.numbered number above)) :
    ∃ outline, forest.outlines[place]? = some outline ∧
      (madeState? outline).bind ContextState.number? = some number := by
  refine ⟨held.outline, ?_, ?_⟩
  · rw [getElem?_outlines, found, Option.map_some]
  · rw [madeState?, HeldContext.outline, if_pos made, stateful]
    rfl

theorem Native.isMade {place : Nat} {held : HeldContext} (native : forest.Native place)
    (found : forest.held[place]? = some held) : held.origin.isMade = true := by
  cases native with
  | created present origin =>
      rw [present] at found
      rw [← Option.some.inj found, origin]
      rfl
  | derived present origin parent =>
      rw [present] at found
      rw [← Option.some.inj found, origin]
      rfl

theorem Rooted.descending (rooted : forest.Rooted)
    (bounded : forest.madeStates.length < wordLimit) {place number above : Nat}
    {held : HeldContext} (native : forest.Native place)
    (found : forest.held[place]? = some held)
    (stateful : held.context.state = some (.numbered number (some above))) :
    above < number := by
  have made := native.isMade found
  cases native with
  | created present origin =>
      rw [present] at found
      cases found
      obtain ⟨own, numbered⟩ := rooted.root present origin stateful
      cases numbered
  | derived present origin nativeParent =>
      rw [present] at found
      cases found
      obtain ⟨source, earlier, before, states⟩ := rooted.link present origin
      rcases states with ⟨_, stateless⟩ | ⟨parentNumber, further, own, parentState, linked⟩
      · rw [stateless] at stateful
        cases stateful
      · rw [linked] at stateful
        cases stateful
        -- The catalogue gave both numbers out, so they are in the order of the places.
        obtain ⟨first, firstFound, firstNumber⟩ :=
          madeNumber_of_held before (nativeParent.isMade before) parentState
        obtain ⟨second, secondFound, secondNumber⟩ :=
          madeNumber_of_held present made linked
        obtain ⟨inRange, rfl⟩ := List.getElem?_eq_some_iff.mp firstFound
        obtain ⟨inRange', rfl⟩ := List.getElem?_eq_some_iff.mp secondFound
        have ascending := List.pairwise_iff_getElem.mp (rooted.ascending bounded)
        exact ascending _ _ inRange inRange' earlier _ firstNumber _ secondNumber

/-! ## Consistency -/

/-- Contexts carry the states of a catalogue consistently: so do those that were obtained,
and so will the next one. -/
structure Consistent (forest : ContextForest) : Prop where
  /-- States are numbered from one on, in the order in which they were made. -/
  numbers : forest.madeStates.map ContextState.number? =
    (List.range' 1 forest.madeStates.length).map some
  /-- Nothing else uses numbers up. -/
  next : forest.manager.state.nextState = (forest.madeStates.length + 1) % wordLimit
  distinct : (forest.madeStates.map ContextState.number?).Nodup
  /-- The state of a fresh context points to no other. -/
  root : ∀ (place : Nat) (held : HeldContext) state, forest.held[place]? = some held →
    held.origin = .created → held.context.state = some state →
      ∃ number, state = .numbered number none
  /-- A derived context has state exactly if the one at its parent's place has, and its
  state points to that one's. -/
  link : ∀ (place parent : Nat) (held : HeldContext), forest.held[place]? = some held →
    held.origin = .derived parent →
      ∃ source : HeldContext, parent < place ∧ forest.held[parent]? = some source ∧
        ((source.context.state = none ∧ held.context.state = none) ∨
          ∃ number above own, source.context.state = some (.numbered number above) ∧
            held.context.state = some (.numbered own (some number)))
  /-- Where nothing was restored or brought in, states point to smaller numbers. -/
  descending : ∀ (place : Nat) (held : HeldContext) number above, forest.Native place →
    forest.held[place]? = some held →
      held.context.state = some (.numbered number (some above)) → above < number
  /-- A fresh context has the next state if the catalogue supports states at that
  moment. -/
  create : forest.manager.hasCapability plugin .statefulContexts = true →
    forest.madeStates.length + 1 < wordLimit →
      (Manager.createContext plugin forest.manager).answer =
        .ok ⟨.empty, some (.numbered (forest.madeStates.length + 1) none)⟩
  /-- Otherwise it has none, and nothing happens. -/
  createStateless : forest.manager.hasCapability plugin .statefulContexts = false →
    Manager.createContext plugin forest.manager = ⟨.ok .empty, forest.manager, []⟩
  /-- Whatever the catalogue supports, a context derived from one with state has the
  locale of that one at that moment and the next state. -/
  derive : ∀ locale number above, forest.madeStates.length + 1 < wordLimit →
    (Manager.createChildContext plugin ⟨locale, some (.numbered number above)⟩
      forest.manager).answer =
        .ok ⟨locale, some (.numbered (forest.madeStates.length + 1) (some number))⟩
  /-- A context derived from one without state has its locale at that moment and no
  state, and nothing happens. -/
  deriveStateless : ∀ locale,
    Manager.createChildContext plugin ⟨locale, none⟩ forest.manager =
      ⟨.ok ⟨locale, none⟩, forest.manager, []⟩
  deriveForeign : ∀ locale,
    (Manager.createChildContext plugin ⟨locale, some .foreign⟩ forest.manager).answer =
      .error (.inputValidation "Not a stub manager state")
  /-- The token of a context without state is empty, and the empty token stands for the
  context without locale and state. -/
  persistStateless : ∀ locale,
    Manager.persistenceToken plugin ⟨locale, none⟩ forest.manager =
      ⟨.ok "", forest.manager, []⟩
  restoreStateless :
    Manager.contextOfToken plugin "" forest.manager = ⟨.ok .empty, forest.manager, []⟩

theorem Rooted.nextState_eq (rooted : forest.Rooted)
    (bounded : forest.madeStates.length + 1 < wordLimit) :
    forest.manager.state.nextState = forest.madeStates.length + 1 := by
  rw [rooted.next, Nat.mod_eq_of_lt bounded]

theorem Rooted.consistent (rooted : forest.Rooted)
    (bounded : forest.madeStates.length < wordLimit) : forest.Consistent := by
  constructor
  case numbers =>
    exact rooted.numbers bounded
  case next =>
    exact rooted.next
  case distinct =>
    rw [rooted.numbers bounded]
    exact (List.nodup_range' 1).map fun _ _ => Option.some.inj
  case root =>
    intro place held state found origin stateful
    exact rooted.root found origin stateful
  case link =>
    intro place parent held found origin
    exact rooted.link found origin
  case descending =>
    intro place held number above native found stateful
    exact rooted.descending bounded native found stateful
  case create =>
    intro stateful room
    rw [createContext_of_stateful stateful, rooted.nextState_eq room]
  case createStateless =>
    intro stateless
    exact createContext_of_stateless stateless
  case derive =>
    intro locale number above room
    simp only [createChildContext_eq, rooted.nextState_eq room]
  case deriveStateless =>
    intro locale
    rw [createChildContext_eq]
  case deriveForeign =>
    intro locale
    rw [createChildContext_eq]
  case persistStateless =>
    intro locale
    rfl
  case restoreStateless =>
    rfl

end ContextForest

open ContextForest

/-- Whatever a host does with the contexts of a catalogue and in between, they carry its
states consistently as long as there are words for the numbers. -/
theorem forest_consistent (manager : Manager Catalogue) (steps : List ContextStep)
    (unused : manager.state.nextState = 1)
    (bounded : (grow manager steps).madeStates.length < wordLimit) :
    (grow manager steps).Consistent :=
  (rooted_grow manager steps unused).consistent bounded

/-- It supports states until it is prepared. -/
def statefulAtFirst : Manager Catalogue :=
  .ofState
    { (Catalogue.named "stock").withCapability .statefulContexts with
      laterCapabilities := some usualCapabilities }

/-- Contexts with and without state, from before and after a preparation.  The one at
place three is derived from a restored one, whose number is larger. -/
def family : List ContextStep :=
  [.create, .derive 0, .restore "stub-state:7", .derive 2,
    .between (.used (.prepare ⟨"host", "Host", .empty⟩ .empty)) rfl,
    .create, .derive 1, .derive 4, .bring ⟨.empty, some .foreign⟩, .derive 7]

theorem forest_consistent_family :
    (grow statefulAtFirst family).madeStates =
        [.numbered 1 none, .numbered 2 (some 1), .numbered 3 (some 7),
          .numbered 4 (some 2)] ∧
      (grow statefulAtFirst family).held.map (·.context.hasState) =
        [true, true, true, true, false, true, false, true] ∧
      (grow statefulAtFirst family).Consistent := by
  have made : (grow statefulAtFirst family).madeStates =
      [.numbered 1 none, .numbered 2 (some 1), .numbered 3 (some 7),
        .numbered 4 (some 2)] := by
    decide
  have states : (grow statefulAtFirst family).held.map (·.context.hasState) =
      [true, true, true, true, false, true, false, true] := by
    decide
  have bounded : (grow statefulAtFirst family).madeStates.length < wordLimit := by
    rw [made]
    decide
  exact ⟨made, states, forest_consistent statefulAtFirst family rfl bounded⟩

end AssetExchange
