import AssetExchange.AnyManager
import AssetExchange.Proofs.Catalogue.SetUp
import AssetExchange.Proofs.Manager.Preparation

/-!
# What managers remember of their settings

Some managers store the settings they are prepared with and give them back, catalogues
among them.  Others leave settings and preparation as the interface has them
(`Plugin.Forgetful`): they accept any settings and give back none.  A host may hold both
kinds at once.

`Plugin.Mindful` is what the two have in common: what a manager remembers decides which
settings it gives, and only a preparation changes what it remembers.  Catalogues beside
forgetful managers are mindful (`mindful_sum`).
-/

namespace AssetExchange

variable {sigma tau pi kappa delta alpha : Type}

/-- What a manager remembers of its settings, if it stores them. -/
structure Plugin.Mindful (plugin : Plugin sigma pi) (change : delta → sigma → sigma)
    (memory : sigma → Option InfoDictionary) : Prop where
  gives : ∀ state, (plugin.settings state).answer = .ok ((memory state).getD .empty)
  keeps : ∀ event : ManagerEvent pi delta, event.prepares = false →
    ∀ manager, memory (event.after plugin change manager).state = memory manager.state
  takes : ∀ host values start,
    (Manager.prepare plugin host values (.ofState start)).answer = .ok () →
      memory (Manager.prepare plugin host values (.ofState start)).state.state =
        (memory start).map fun _ => values
  /-- Whether a manager can be prepared depends neither on the host nor on the
  settings. -/
  alike : ∀ host values otherHost otherValues start,
    (Manager.prepare plugin host values (.ofState start)).answer = .ok () →
      (Manager.prepare plugin otherHost otherValues (.ofState start)).answer = .ok ()

theorem Plugin.Mindful.runEvents {plugin : Plugin sigma pi}
    {change : delta → sigma → sigma} {memory : sigma → Option InfoDictionary}
    (mindful : plugin.Mindful change memory) {events : List (ManagerEvent pi delta)}
    (quiet : ∀ event ∈ events, event.prepares = false) (manager : Manager sigma) :
    memory (AssetExchange.runEvents plugin change events manager).state =
      memory manager.state := by
  induction events generalizing manager with
  | nil =>
      rfl
  | cons event rest inductionHypothesis =>
      obtain ⟨first, later⟩ := List.forall_mem_cons.1 quiet
      have kept := mindful.keeps event first manager
      exact (inductionHypothesis later _).trans kept

/-- A manager that accepts any settings and keeps none. -/
structure Plugin.Forgetful (plugin : Plugin sigma pi) : Prop where
  settings : plugin.settings = .answer (.ok .empty)
  prepare : ∀ host values, plugin.prepare host values = .answer (.ok ())

theorem forgetful_script : Script.plugin.Forgetful :=
  ⟨rfl, fun _ _ => rfl⟩

/-! ## Managers of two kinds -/

section Sum

variable {left : Plugin sigma pi} {right : Plugin tau kappa}

namespace Plugin.Touched

theorem isLeft {state : sigma} {later : sigma ⊕ tau}
    (touched : (left.sum right).Touched (.inl state) later) :
    ∃ next, later = .inl next ∧ left.Touched state next := by
  cases touched with
  | untouched =>
      exact ⟨_, rfl, .untouched⟩
  | info =>
      exact ⟨_, rfl, .info⟩
  | settings =>
      exact ⟨_, rfl, .settings⟩
  | updateTerminology terms =>
      exact ⟨_, rfl, .updateTerminology terms⟩
  | flushCaches =>
      exact ⟨_, rfl, .flushCaches⟩
  | managementPolicy traitSets access context =>
      exact ⟨_, rfl, .managementPolicy traitSets access context⟩
  | createState =>
      exact ⟨_, rfl, .createState⟩
  | createChildState parent =>
      exact ⟨_, rfl, .createChildState parent⟩
  | tokenForState held =>
      exact ⟨_, rfl, .tokenForState held⟩
  | stateFromToken token =>
      exact ⟨_, rfl, .stateFromToken token⟩
  | recognize text =>
      exact ⟨_, rfl, .recognize text⟩
  | pagerHasNext pager =>
      cases pager with
      | inl pager =>
          exact ⟨_, rfl, .pagerHasNext pager⟩
      | inr _ =>
          exact ⟨_, rfl, .untouched⟩
  | pagerGet pager =>
      cases pager with
      | inl pager =>
          exact ⟨_, rfl, .pagerGet pager⟩
      | inr _ =>
          exact ⟨_, rfl, .untouched⟩
  | pagerNext pager =>
      cases pager with
      | inl pager =>
          exact ⟨_, rfl, .pagerNext pager⟩
      | inr _ =>
          exact ⟨_, rfl, .untouched⟩
  | pagerClose pager =>
      cases pager with
      | inl pager =>
          exact ⟨_, rfl, .pagerClose pager⟩
      | inr _ =>
          exact ⟨_, rfl, .untouched⟩

theorem isRight {state : tau} {later : sigma ⊕ tau}
    (touched : (left.sum right).Touched (.inr state) later) :
    ∃ next, later = .inr next := by
  cases touched with
  | pagerHasNext pager =>
      cases pager <;> exact ⟨_, rfl⟩
  | pagerGet pager =>
      cases pager <;> exact ⟨_, rfl⟩
  | pagerNext pager =>
      cases pager <;> exact ⟨_, rfl⟩
  | pagerClose pager =>
      cases pager <;> exact ⟨_, rfl⟩
  | _ =>
      exact ⟨_, rfl⟩

end Plugin.Touched

theorem transcript_embed {beta : Type} (state : sigma → tau) (value : alpha → beta)
    (run : BatchRun alpha (Reply sigma (Outcome Unit)))
    (answer : List (Report beta) → Flow) :
    ((BatchRequest.embed state value run).transcript answer []).2 =
      ((run.transcript (fun reports => answer (reports.map (Report.mapValue value)))
        []).2).mapState state := by
  have mapped := BatchRun.transcript_mapValue value answer run []
  rw [BatchRequest.embed, BatchRun.transcript_mapResult]
  exact congrArg (fun heard => Reply.mapState state heard.2) mapped

namespace BatchCall

/-- A batch request to a manager of the first kind is one of its own. -/
theorem exists_left (left : Plugin sigma pi) (right : Plugin tau kappa)
    (call : BatchCall (pi ⊕ kappa) alpha) (state : sigma) :
    ∃ (beta : Type) (own : BatchCall pi beta) (value : beta → alpha),
      call.make (left.sum right) (.inl state) =
        BatchRequest.embed .inl value (own.make left state) := by
  cases call with
  | entityExists references context =>
      exact ⟨_, .entityExists references context, id, rfl⟩
  | entityTraits references access context =>
      exact ⟨_, .entityTraits references access context, id, rfl⟩
  | resolve references traits access context =>
      exact ⟨_, .resolve references traits access context, id, rfl⟩
  | defaultEntityReference traitSets access context =>
      exact ⟨_, .defaultEntityReference traitSets access context, id, rfl⟩
  | relatedToMany references relationship resultTraits pageSize access context =>
      exact ⟨_, .relatedToMany references relationship resultTraits pageSize access context,
        .inl, rfl⟩
  | relatedByMany reference relationships resultTraits pageSize access context =>
      exact ⟨_, .relatedByMany reference relationships resultTraits pageSize access context,
        .inl, rfl⟩
  | preflight references hints access context =>
      exact ⟨_, .preflight references hints access context, id, rfl⟩
  | register references datas access context =>
      exact ⟨_, .register references datas access context, id, rfl⟩

theorem exists_right (left : Plugin sigma pi) (right : Plugin tau kappa)
    (call : BatchCall (pi ⊕ kappa) alpha) (state : tau) :
    ∃ (beta : Type) (run : BatchRun beta (Reply tau (Outcome Unit))) (value : beta → alpha),
      call.make (left.sum right) (.inr state) = BatchRequest.embed .inr value run := by
  cases call with
  | relatedToMany references relationship resultTraits pageSize access context =>
      exact ⟨kappa, _, .inr, rfl⟩
  | relatedByMany reference relationships resultTraits pageSize access context =>
      exact ⟨kappa, _, .inr, rfl⟩
  | _ =>
      exact ⟨_, _, id, rfl⟩

end BatchCall

end Sum

/-! ## Catalogues beside forgetful managers -/

section Catalogues

open Catalogue

variable {other : Plugin tau kappa}

/-- The settings that a catalogue was prepared with.  Managers of the other kind remember
nothing. -/
def storedSettings : Catalogue ⊕ tau → Option InfoDictionary
  | .inl catalogue => some catalogue.settings
  | .inr _ => none

/-- Changes that are not asked for: an error with which a catalogue refuses to be prepared
from then on, and any change of a manager of the other kind. -/
def drift (name : Option ApiError × (tau → tau)) : Catalogue ⊕ tau → Catalogue ⊕ tau :=
  Sum.map (refusing name.1) name.2

theorem storedSettings_of_asPrepared {before after : Catalogue}
    (same : after.asPrepared = before.asPrepared) :
    storedSettings (.inl after : Catalogue ⊕ tau) =
      storedSettings (.inl before : Catalogue ⊕ tau) := by
  have sameSettings : after.settings = before.settings := (congrArg settings same :)
  exact congrArg some sameSettings

theorem storedSettings_of_touched {state later : Catalogue ⊕ tau}
    (touched : (plugin.sum other).Touched state later) :
    storedSettings later = storedSettings state := by
  cases state with
  | inl catalogue =>
      obtain ⟨next, rfl, own⟩ := touched.isLeft
      exact storedSettings_of_asPrepared (asPrepared_and_entities_of_touched own).1
  | inr state =>
      obtain ⟨next, rfl⟩ := touched.isRight
      rfl

theorem storedSettings_make (call : BatchCall (CataloguePager ⊕ kappa) alpha)
    (answer : List (Report alpha) → Flow) (state : Catalogue ⊕ tau) :
    storedSettings ((call.make (plugin.sum other) state).transcript answer []).2.state =
      storedSettings state := by
  cases state with
  | inl catalogue =>
      obtain ⟨beta, own, value, made⟩ := call.exists_left plugin other catalogue
      rw [made, transcript_embed]
      exact storedSettings_of_asPrepared (own.view_make steady_asPrepared _ catalogue)
  | inr state =>
      obtain ⟨beta, run, value, made⟩ := call.exists_right plugin other state
      rw [made, transcript_embed]
      rfl

theorem storedSettings_ask (call : BatchCall (CataloguePager ⊕ kappa) alpha)
    (answer : List (Report alpha) → Flow) (manager : Manager (Catalogue ⊕ tau)) :
    storedSettings ((call.ask (plugin.sum other) manager).transcript answer []).2.state.state =
      storedSettings manager.state := by
  cases checked : call.check with
  | some fault =>
      rw [BatchCall.transcript_ask_of_check checked]
  | none =>
      rw [BatchCall.transcript_ask checked]
      exact storedSettings_make call answer manager.state

theorem storedSettings_after {use : ManagerUse (CataloguePager ⊕ kappa)}
    (quiet : use.prepares = false) (manager : Manager (Catalogue ⊕ tau)) :
    storedSettings (use.after (plugin.sum other) manager).state = storedSettings manager.state := by
  cases plain : use.isBatch with
  | false =>
      obtain ⟨state, touched, after⟩ :=
        use.touched_after (plugin.sum other) plain quiet manager
      rw [after]
      exact storedSettings_of_touched touched
  | true =>
      cases use with
      | batch call answer =>
          exact storedSettings_ask call answer manager
      | shape policy operation =>
          rw [ManagerUse.after, after_shape]
          cases operation <;> exact storedSettings_ask _ _ manager
      | _ =>
          cases plain

/-- Whether the manager itself accepts its preparation, and what it supports afterwards,
depends neither on the host nor on the settings. -/
theorem prepare_alike (forgetful : other.Forgetful) (host otherHost : Host)
    (values otherValues : InfoDictionary) (state : Catalogue ⊕ tau) :
    ((plugin.sum other).prepare host values state).answer =
        ((plugin.sum other).prepare otherHost otherValues state).answer ∧
      (plugin.sum other).hasCapability ((plugin.sum other).prepare host values state).state =
        (plugin.sum other).hasCapability
          ((plugin.sum other).prepare otherHost otherValues state).state := by
  cases state with
  | inl catalogue =>
      change (counting .prepare (prepare host values) catalogue).answer =
          (counting .prepare (prepare otherHost otherValues) catalogue).answer ∧
        plugin.hasCapability (counting .prepare (prepare host values) catalogue).state =
          plugin.hasCapability
            (counting .prepare (prepare otherHost otherValues) catalogue).state
      simp only [counting, prepare]
      split <;> exact ⟨rfl, rfl⟩
  | inr state =>
      have same : other.prepare host values = other.prepare otherHost otherValues := by
        rw [forgetful.prepare, forgetful.prepare]
      change (other.prepare host values state).answer =
          (other.prepare otherHost otherValues state).answer ∧
        other.hasCapability (other.prepare host values state).state =
          other.hasCapability (other.prepare otherHost otherValues state).state
      rw [same]
      exact ⟨rfl, rfl⟩

/-- A preparation that succeeds stores the settings in a catalogue. -/
theorem storedSettings_prepare {host : Host} {values : InfoDictionary} {state : Catalogue ⊕ tau}
    (done : ((plugin.sum other).prepare host values state).answer = .ok ()) :
    storedSettings ((plugin.sum other).prepare host values state).state =
      (storedSettings state).map fun _ => values := by
  cases state with
  | inl catalogue =>
      change (counting .prepare (prepare host values) catalogue).answer = .ok () at done
      change some (counting .prepare (prepare host values) catalogue).state.settings =
        some values
      simp only [counting, prepare] at done ⊢
      split at done
      · cases done
      · rename_i accepted
        rw [accepted]
  | inr state =>
      rfl

theorem mindful_sum (forgetful : other.Forgetful) :
    (plugin.sum other).Mindful drift
      (storedSettings : Catalogue ⊕ tau → Option InfoDictionary) := by
  constructor
  case gives =>
      intro state
      cases state with
      | inl catalogue =>
          rfl
      | inr state =>
          change (other.settings state).answer = _
          rw [forgetful.settings]
          rfl
  case keeps =>
      intro event quiet manager
      cases event with
      | used use =>
          exact storedSettings_after quiet manager
      | changed name =>
          obtain ⟨state, scheme⟩ := manager
          cases state <;> rfl
  case takes =>
      intro host values start done
      have law := Manager.preparationLaw (plugin.sum other) host values (.ofState start)
      obtain ⟨own, capable⟩ := law.ok_iff.1 done
      have nothing := ((plugin.sum other).missingCapabilities_eq_nil_iff _).2 capable
      rw [Manager.prepare_of_capable own nothing]
      exact (storedSettings_of_touched .info).trans (storedSettings_prepare own)
  case alike =>
      intro host values otherHost otherValues start done
      have law := Manager.preparationLaw (plugin.sum other) host values (.ofState start)
      have otherLaw := Manager.preparationLaw (plugin.sum other) otherHost otherValues
        (.ofState start)
      obtain ⟨own, capable⟩ := law.ok_iff.1 done
      obtain ⟨sameAnswer, sameCapabilities⟩ :=
        prepare_alike forgetful host otherHost values otherValues start
      apply otherLaw.ok_iff.2
      exact ⟨sameAnswer.symm.trans own, sameCapabilities ▸ capable⟩

end Catalogues

end AssetExchange
