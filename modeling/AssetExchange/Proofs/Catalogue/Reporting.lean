import AssetExchange.Catalogue.Plugin
import AssetExchange.Proofs.Batch.Stopping
import AssetExchange.Proofs.Batch.Transcript
import Mathlib.Data.List.Basic

/-!
# What catalogues report

There are eight batch requests (`BatchCall`), and a catalogue serves all of them in
the same way: one report for each element of the request, in the order of the
catalogue, up to the first error that is answered by `stop`.  Elements after that
error are not evaluated, so they leave no trace in the catalogue.
-/

namespace AssetExchange

/-- A batch request with its arguments: `pi` are the pagers of the manager, and the
index is the type of the values that are reported. -/
inductive BatchCall (pi : Type) : Type → Type
  | entityExists (references : List EntityReference) (context : Context) :
      BatchCall pi Bool
  | entityTraits (references : List EntityReference) (access : EntityTraitsAccess)
      (context : Context) : BatchCall pi TraitSet
  | resolve (references : List EntityReference) (traits : TraitSet)
      (access : ResolveAccess) (context : Context) : BatchCall pi TraitsData
  | defaultEntityReference (traitSets : List TraitSet)
      (access : DefaultEntityAccess) (context : Context) :
      BatchCall pi (Option EntityReference)
  | relatedToMany (references : List EntityReference) (relationship : TraitsData)
      (resultTraits : TraitSet) (pageSize : Nat) (access : RelationsAccess)
      (context : Context) : BatchCall pi pi
  | relatedByMany (reference : EntityReference) (relationships : List TraitsData)
      (resultTraits : TraitSet) (pageSize : Nat) (access : RelationsAccess)
      (context : Context) : BatchCall pi pi
  | preflight (references : List EntityReference) (hints : List TraitsData)
      (access : PublishingAccess) (context : Context) :
      BatchCall pi EntityReference
  | register (references : List EntityReference) (datas : List TraitsData)
      (access : PublishingAccess) (context : Context) :
      BatchCall pi EntityReference

namespace BatchCall

variable {sigma pi alpha : Type}

def name : BatchCall pi alpha → Call
  | entityExists .. => .entityExists
  | entityTraits .. => .entityTraits
  | resolve .. => .resolve
  | defaultEntityReference .. => .defaultEntityReference
  | relatedToMany .. => .relatedToMany
  | relatedByMany .. => .relatedByMany
  | preflight .. => .preflight
  | register .. => .register

def size : BatchCall pi alpha → Nat
  | entityExists references _ => references.length
  | entityTraits references _ _ => references.length
  | resolve references _ _ _ => references.length
  | defaultEntityReference traitSets _ _ => traitSets.length
  | relatedToMany references _ _ _ _ _ => references.length
  | relatedByMany _ relationships _ _ _ _ => relationships.length
  | preflight references _ _ _ => references.length
  | register references datas _ _ => (references.zip datas).length

def make (plugin : Plugin sigma pi) : BatchCall pi alpha → BatchRequest sigma alpha
  | entityExists references context => plugin.entityExists references context
  | entityTraits references access context =>
      plugin.entityTraits references access context
  | resolve references traits access context =>
      plugin.resolve references traits access context
  | defaultEntityReference traitSets access context =>
      plugin.defaultEntityReference traitSets access context
  | relatedToMany references relationship resultTraits pageSize access context =>
      plugin.relatedToMany references relationship resultTraits pageSize access context
  | relatedByMany reference relationships resultTraits pageSize access context =>
      plugin.relatedByMany reference relationships resultTraits pageSize access context
  | preflight references hints access context =>
      plugin.preflight references hints access context
  | register references datas access context =>
      plugin.register references datas access context

/-- What a catalogue has to say about each element of the request, in the order of
the request. -/
def outcomes (catalogue : Catalogue) :
    BatchCall CataloguePager alpha → List (ElementOutcome alpha)
  | entityExists references _ => references.map fun reference =>
      catalogue.unlessError reference
        (.ok (catalogue.entity? reference.text).isSome)
  | entityTraits references _ _ => references.map fun reference =>
      (catalogue.lookUp reference).map TraitsData.traitSet
  | resolve references traits _ _ => references.map fun reference =>
      (catalogue.lookUp reference).map (·.restrict traits)
  | defaultEntityReference traitSets _ _ => traitSets.map fun traits =>
      .ok (catalogue.defaultReference? traits)
  | relatedToMany references relationship _ pageSize _ _ =>
      references.map fun reference =>
        catalogue.unlessError reference
          (.ok (catalogue.pagerFor reference relationship pageSize))
  | relatedByMany reference relationships _ pageSize _ _ =>
      relationships.map fun relationship =>
        catalogue.unlessError reference
          (.ok (catalogue.pagerFor reference relationship pageSize))
  | preflight references _ _ _ => references.map fun reference =>
      catalogue.unlessError reference (.ok reference)
  | register references datas _ _ => (references.zip datas).map fun pair =>
      catalogue.unlessError pair.1 (.ok pair.1)

/-- All reports that a catalogue makes unless it is stopped: one for each element, in
the order of the catalogue. -/
def reports (catalogue : Catalogue) (call : BatchCall CataloguePager alpha) :
    List (Report alpha) :=
  catalogue.order.arrange
    ((call.outcomes catalogue).zipIdx.map fun entry => ⟨entry.2, entry.1⟩)

/-- What the evaluation of one element leaves behind in a catalogue: only an entity
that is published, and not refused, is put into it. -/
def leave : BatchCall CataloguePager alpha →
    Catalogue → Report alpha → Catalogue
  | register references datas _ _, catalogue, ⟨index, .ok _⟩ =>
      match (references.zip datas)[index]? with
      | some (reference, data) => catalogue.withEntity reference.text data
      | none => catalogue
  | _, catalogue, _ => catalogue

end BatchCall

/-! ## Orders -/

namespace CallbackOrder

variable {item other : Type}

theorem arrange_map (order : CallbackOrder) (change : item → other)
    (items : List item) :
    order.arrange (items.map change) = (order.arrange items).map change := by
  cases order <;> simp [arrange]

theorem arrange_perm (order : CallbackOrder) (items : List item) :
    (order.arrange items).Perm items := by
  cases order with
  | forward =>
      exact List.Perm.refl items
  | reverse =>
      exact List.reverse_perm items
  | threaded =>
      exact List.Perm.refl items

theorem mem_arrange_iff (order : CallbackOrder) {items : List item}
    {element : item} : element ∈ order.arrange items ↔ element ∈ items :=
  (order.arrange_perm items).mem_iff

end CallbackOrder

/-! ## Serving elements one after the other -/

namespace Catalogue

variable {item alpha : Type}

/-- The reports of elements that are evaluated one after the other, and the catalogue
afterwards. -/
def evaluateAll
    (evaluate : item → Catalogue → ElementOutcome alpha × Catalogue) :
    List (item × Nat) → Catalogue → List (Report alpha) × Catalogue
  | [], catalogue => ([], catalogue)
  | (element, index) :: rest, catalogue =>
      let evaluated := evaluate element catalogue
      let later := evaluateAll evaluate rest evaluated.2
      (⟨index, evaluated.1⟩ :: later.1, later.2)

/-- After one report the rest is heard under the rule that remembers it. -/
private theorem transcript_after {rho : Type}
    (answer : List (Report alpha) → Flow) (run : BatchRun alpha rho)
    (report : Report alpha) :
    run.transcript answer [report] =
      (report ::
          (run.transcript (fun reports => answer (report :: reports)) []).1,
        (run.transcript (fun reports => answer (report :: reports)) []).2) :=
  BatchRun.transcript_append answer run [report] []

/-- The elements up to the first error that is answered by `stop` are evaluated, and
no others are: the reports and the catalogue afterwards are theirs alone. -/
theorem transcript_reportItems
    (evaluate : item → Catalogue → ElementOutcome alpha × Catalogue)
    (answer : List (Report alpha) → Flow) (entries : List (item × Nat))
    (catalogue : Catalogue) :
    ∃ served leftOut, entries = served ++ leftOut ∧
      EndsAtStop answer (evaluateAll evaluate served catalogue).1 leftOut ∧
      (reportItems evaluate entries catalogue).transcript answer [] =
        ((evaluateAll evaluate served catalogue).1,
          ⟨.ok (), (evaluateAll evaluate served catalogue).2, []⟩) := by
  -- The rest of the batch is heard under the rule that remembers the first report.
  induction entries generalizing catalogue answer with
  | nil =>
      exact ⟨[], [], rfl, EndsAtStop.nil answer, rfl⟩
  | cons entry rest inductionHypothesis =>
      obtain ⟨element, index⟩ := entry
      cases evaluated : evaluate element catalogue with
      | mk outcome next =>
          obtain ⟨served, leftOut, split, ends, heard⟩ :=
            inductionHypothesis
              (fun reports => answer (⟨index, outcome⟩ :: reports)) next
          cases outcome with
          | ok value =>
              refine ⟨(element, index) :: served, leftOut, by rw [split]; rfl, ?_, ?_⟩
              · simp only [evaluateAll, evaluated]
                exact ends.cons (by simp)
              · simp only [reportItems, evaluated, BatchRun.transcript,
                  List.nil_append, evaluateAll]
                rw [transcript_after, heard]
          | error error =>
              cases answered : answer [⟨index, .error error⟩] with
              | proceed =>
                  refine ⟨(element, index) :: served, leftOut,
                    by rw [split]; rfl, ?_, ?_⟩
                  · simp only [evaluateAll, evaluated]
                    exact ends.cons (fun _ _ => answered)
                  · simp only [reportItems, evaluated, BatchRun.transcript,
                      List.nil_append, evaluateAll, answered]
                    rw [transcript_after, heard]
              | stop =>
                  refine ⟨[(element, index)], rest, rfl, ?_, ?_⟩
                  · simp only [evaluateAll, evaluated]
                    exact EndsAtStop.single_error answered rest
                  · simp only [reportItems, evaluated, BatchRun.transcript,
                      List.nil_append, evaluateAll, answered]

/-- The report of an element, when it is known what is said about elements. -/
def reportOf (outcome : item → ElementOutcome alpha) (entry : item × Nat) :
    Report alpha :=
  ⟨entry.2, outcome entry.1⟩

/-- A batch that does not fail as a whole, if evaluating elements one after the other
yields the outcomes that were known before and leaves the traces that are known. -/
theorem transcript_runBatch (call : Call) (items : List item)
    (evaluate : item → Catalogue → ElementOutcome alpha × Catalogue)
    (outcome : item → ElementOutcome alpha)
    (leave : Catalogue → Report alpha → Catalogue)
    (answer : List (Report alpha) → Flow) (catalogue : Catalogue)
    (noFailure : catalogue.callFailure = none)
    (evaluates : ∀ entries : List (item × Nat),
      (∀ entry ∈ entries, items[entry.2]? = some entry.1) →
        evaluateAll evaluate entries (catalogue.recordCall call) =
          (entries.map (reportOf outcome),
            (entries.map (reportOf outcome)).foldl leave
              (catalogue.recordCall call))) :
    ∃ kept leftOut,
      catalogue.order.arrange
          ((items.map outcome).zipIdx.map fun entry => ⟨entry.2, entry.1⟩) =
        kept ++ leftOut ∧
      EndsAtStop answer kept leftOut ∧
      (runBatch call items evaluate catalogue).transcript answer [] =
        (kept, ⟨.ok (), kept.foldl leave (catalogue.recordCall call), []⟩) := by
  obtain ⟨served, leftOut, split, ends, heard⟩ :=
    transcript_reportItems evaluate answer
      (catalogue.order.arrange items.zipIdx) (catalogue.recordCall call)
  have known : ∀ entry ∈ served, items[entry.2]? = some entry.1 := by
    intro entry member
    have inItems : entry ∈ items.zipIdx := by
      rw [← CallbackOrder.mem_arrange_iff catalogue.order, split]
      exact List.mem_append_left _ member
    exact List.mem_zipIdx_iff_getElem?.1 inItems
  rw [evaluates served known] at ends heard
  refine ⟨served.map (reportOf outcome), leftOut.map (reportOf outcome), ?_, ?_, ?_⟩
  · rw [← List.map_append, ← split, ← CallbackOrder.arrange_map, List.zipIdx_map,
      List.map_map]
    rfl
  · exact ⟨ends.proceeds, fun something => ends.stops (by simpa using something)⟩
  · have started : runBatch call items evaluate catalogue =
        reportItems evaluate (catalogue.order.arrange items.zipIdx)
          (catalogue.recordCall call) := by
      simp only [runBatch, recordCall, noFailure]
    rw [started, heard]

/-! ## Elements that are only read, and elements that are published -/

theorem evaluateAll_reading (read : item → Catalogue → ElementOutcome alpha)
    (entries : List (item × Nat)) (catalogue : Catalogue) :
    evaluateAll (reading read) entries catalogue =
      (entries.map (reportOf fun element => read element catalogue), catalogue) := by
  induction entries with
  | nil =>
      rfl
  | cons entry rest inductionHypothesis =>
      simp only [evaluateAll, reading] at inductionHypothesis ⊢
      rw [inductionHypothesis]
      rfl

theorem elementErrors_publish (pair : EntityReference × TraitsData)
    (catalogue : Catalogue) :
    (publish pair catalogue).2.elementErrors = catalogue.elementErrors := by
  unfold publish
  cases catalogue.elementErrors.get? pair.1.text <;> rfl

theorem publish_eq (references : List EntityReference) (datas : List TraitsData)
    (access : PublishingAccess) (context : Context)
    (entry : (EntityReference × TraitsData) × Nat)
    (known : (references.zip datas)[entry.2]? = some entry.1)
    (catalogue : Catalogue) :
    publish entry.1 catalogue =
      (catalogue.unlessError entry.1.1 (.ok entry.1.1),
        (BatchCall.register references datas access context).leave catalogue
          ⟨entry.2, catalogue.unlessError entry.1.1 (.ok entry.1.1)⟩) := by
  unfold publish unlessError
  cases catalogue.elementErrors.get? entry.1.1.text with
  | none =>
      simp only [BatchCall.leave, known]
  | some error =>
      rfl

/-- Publishing refuses the references that were refused in the beginning, whatever was
published before. -/
theorem evaluateAll_publish
    (references : List EntityReference) (datas : List TraitsData)
    (access : PublishingAccess) (context : Context)
    (initial : Catalogue) (entries : List ((EntityReference × TraitsData) × Nat))
    (known : ∀ entry ∈ entries,
      (references.zip datas)[entry.2]? = some entry.1)
    (catalogue : Catalogue)
    (sameErrors : catalogue.elementErrors = initial.elementErrors) :
    evaluateAll publish entries catalogue =
      (entries.map (reportOf fun pair => initial.unlessError pair.1 (.ok pair.1)),
        (entries.map
          (reportOf fun pair => initial.unlessError pair.1 (.ok pair.1))).foldl
            (BatchCall.register references datas access context).leave
            catalogue) := by
  induction entries generalizing catalogue with
  | nil =>
      rfl
  | cons entry rest inductionHypothesis =>
      have head := publish_eq references datas access context entry
        (known entry List.mem_cons_self) catalogue
      have sameOutcome :
          catalogue.unlessError entry.1.1 (.ok entry.1.1) =
            initial.unlessError entry.1.1 (.ok entry.1.1) := by
        simp only [unlessError, sameErrors]
      have later := inductionHypothesis
        (fun other member => known other (List.mem_cons_of_mem _ member))
        (publish entry.1 catalogue).2
        ((elementErrors_publish _ _).trans sameErrors)
      simp only [evaluateAll]
      rw [later, head, sameOutcome]
      rfl

end Catalogue

namespace BatchCall

variable {alpha : Type}

open Catalogue

private theorem transcript_make_reading {item : Type}
    (call : BatchCall CataloguePager alpha) (items : List item)
    (read : item → Catalogue → ElementOutcome alpha)
    (answer : List (Report alpha) → Flow) (catalogue : Catalogue)
    (noFailure : catalogue.callFailure = none)
    (served : call.make plugin = runBatch call.name items (reading read))
    (said : call.outcomes catalogue =
      items.map fun element => read element (catalogue.recordCall call.name))
    (traceless : call.leave = fun held _ => held) :
    ∃ kept leftOut, call.reports catalogue = kept ++ leftOut ∧
      EndsAtStop answer kept leftOut ∧
      (call.make plugin catalogue).transcript answer [] =
        (kept,
          ⟨.ok (), kept.foldl call.leave (catalogue.recordCall call.name), []⟩) := by
  rw [served]
  unfold reports
  rw [said]
  apply transcript_runBatch call.name items (reading read) _ _ answer catalogue noFailure
  intro entries known
  rw [evaluateAll_reading, traceless, List.foldl_fixed]

/-- A catalogue makes the reports of a batch in its order up to the first error that
is answered by `stop`, and these reports alone leave their traces. -/
theorem transcript_make (call : BatchCall CataloguePager alpha)
    (answer : List (Report alpha) → Flow) (catalogue : Catalogue)
    (noFailure : catalogue.callFailure = none) :
    ∃ kept leftOut, call.reports catalogue = kept ++ leftOut ∧
      EndsAtStop answer kept leftOut ∧
      (call.make plugin catalogue).transcript answer [] =
        (kept,
          ⟨.ok (), kept.foldl call.leave (catalogue.recordCall call.name), []⟩) := by
  cases call with
  | entityExists references context =>
      exact transcript_make_reading _ references _ answer catalogue noFailure
        rfl rfl rfl
  | entityTraits references access context =>
      exact transcript_make_reading _ references _ answer catalogue noFailure
        rfl rfl rfl
  | resolve references traits access context =>
      exact transcript_make_reading _ references _ answer catalogue noFailure
        rfl rfl rfl
  | defaultEntityReference traitSets access context =>
      exact transcript_make_reading _ traitSets _ answer catalogue noFailure
        rfl rfl rfl
  | relatedToMany references relationship resultTraits pageSize access context =>
      exact transcript_make_reading _ references _ answer catalogue noFailure
        rfl rfl rfl
  | relatedByMany reference relationships resultTraits pageSize access context =>
      exact transcript_make_reading _ relationships _ answer catalogue noFailure
        rfl rfl rfl
  | preflight references hints access context =>
      exact transcript_make_reading _ references _ answer catalogue noFailure
        rfl rfl rfl
  | register references datas access context =>
      exact transcript_runBatch .register (references.zip datas) publish
        (fun pair => catalogue.unlessError pair.1 (.ok pair.1))
        (BatchCall.register references datas access context).leave
        answer catalogue noFailure
        (fun entries known =>
          evaluateAll_publish references datas access context
            catalogue entries known _ rfl)

/-! ## The law of catalogue batches -/

theorem length_outcomes (call : BatchCall CataloguePager alpha)
    (catalogue : Catalogue) : (call.outcomes catalogue).length = call.size := by
  cases call <;> simp [outcomes, size]

theorem map_index_reports (call : BatchCall CataloguePager alpha)
    (catalogue : Catalogue) :
    (call.reports catalogue).map Report.index =
      catalogue.order.arrange (List.range call.size) := by
  have indices :
      ((call.outcomes catalogue).zipIdx.map fun entry =>
        (⟨entry.2, entry.1⟩ : Report alpha)).map Report.index =
          List.range call.size := by
    rw [List.map_map, ← call.length_outcomes catalogue, List.range_eq_range']
    exact List.zipIdx_map_snd 0 _
  unfold reports
  rw [← CallbackOrder.arrange_map, indices]

theorem make_of_callFailure (call : BatchCall CataloguePager alpha)
    {catalogue : Catalogue} {error : ApiError}
    (failure : catalogue.callFailure = some error) :
    call.make plugin catalogue =
      .done ⟨.error error, catalogue.recordCall call.name, []⟩ := by
  have counted : ∀ name : Call,
      (catalogue.recordCall name).callFailure = some error := fun _ => failure
  cases call <;> simp only [make, plugin, runBatch, name, counted]

/-- The law of catalogue batches, for each of the eight requests, any arguments and
any answers to errors, which may depend on everything that was reported before.

A catalogue without a failure for whole calls makes the reports of its elements in its
order, ascending or descending, each of them once, up to the first error that is
answered by `stop`.  Then the call returns without an error, and the reports that were
made have left their traces in the catalogue, those that were left out have not.  If
no error is answered by `stop` every element is reported exactly once.

A catalogue with such a failure returns it, reports nothing and keeps its entities. -/
theorem transcript_make_catalogue (call : BatchCall CataloguePager alpha)
    (catalogue : Catalogue) (answer : List (Report alpha) → Flow) :
    (catalogue.callFailure = none → catalogue.order ≠ .threaded →
      (call.reports catalogue).map Report.index =
          (if catalogue.order = .reverse then (List.range call.size).reverse
            else List.range call.size) ∧
        ∃ kept leftOut, call.reports catalogue = kept ++ leftOut ∧
          EndsAtStop answer kept leftOut ∧
          (call.make plugin catalogue).transcript answer [] =
            (kept,
              ⟨.ok (), kept.foldl call.leave (catalogue.recordCall call.name), []⟩) ∧
          ((∀ before index error after,
              kept = before ++ ⟨index, .error error⟩ :: after →
                answer (before ++ [⟨index, .error error⟩]) = .proceed) →
            (kept.map Report.index).Perm (List.range call.size))) ∧
      ∀ error, catalogue.callFailure = some error →
        (call.make plugin catalogue).transcript answer [] =
            ([], ⟨.error error, catalogue.recordCall call.name, []⟩) ∧
          (catalogue.recordCall call.name).entities = catalogue.entities := by
  refine ⟨fun noFailure ordered => ⟨?_, ?_⟩, fun error failure => ⟨?_, rfl⟩⟩
  · rw [map_index_reports]
    cases order : catalogue.order with
    | forward =>
        rfl
    | reverse =>
        rfl
    | threaded =>
        exact absurd order ordered
  · obtain ⟨kept, leftOut, split, ends, heard⟩ :=
      call.transcript_make answer catalogue noFailure
    refine ⟨kept, leftOut, split, ends, heard, fun unstopped => ?_⟩
    have complete : call.reports catalogue = kept := by
      rw [split, ends.leftOut_eq_nil unstopped, List.append_nil]
    rw [← complete, map_index_reports]
    exact catalogue.order.arrange_perm _
  · rw [call.make_of_callFailure failure]
    rfl

end BatchCall

def threeReferences : List EntityReference := [⟨"a"⟩, ⟨"b"⟩, ⟨"c"⟩]

def backwards : Catalogue :=
  { (Catalogue.named "stock").withElementError "b" ⟨.authError, "denied"⟩ with
    order := .reverse }

def offline : Catalogue :=
  { backwards with callFailure := some (.unhandled "offline") }

def publishThree : BatchCall CataloguePager EntityReference :=
  .register threeReferences [.empty, .empty, .empty]
    ⟨.write, List.mem_cons_self⟩ .empty

/-- Published backwards, the entity in the middle is refused, and the listener stops
there; nothing is published where calls fail as a whole. -/
theorem transcript_make_catalogue_backwards :
    ((publishThree.reports backwards).map Report.index = [2, 1, 0] ∧
      ∃ kept leftOut, publishThree.reports backwards = kept ++ leftOut ∧
        EndsAtStop (fun _ => .stop) kept leftOut ∧
        (publishThree.make Catalogue.plugin backwards).transcript
            (fun _ => .stop) [] =
          (kept, ⟨.ok (),
            kept.foldl publishThree.leave (backwards.recordCall .register), []⟩)) ∧
    (publishThree.make Catalogue.plugin offline).transcript (fun _ => .stop) [] =
      ([], ⟨.error (.unhandled "offline"), offline.recordCall .register, []⟩) := by
  obtain ⟨served, _⟩ :=
    BatchCall.transcript_make_catalogue publishThree backwards (fun _ => .stop)
  obtain ⟨_, failed⟩ :=
    BatchCall.transcript_make_catalogue publishThree offline (fun _ => .stop)
  obtain ⟨indices, kept, leftOut, split, ends, heard, _⟩ := served rfl (by decide)
  exact ⟨⟨indices, kept, leftOut, split, ends, heard⟩,
    (failed (.unhandled "offline") rfl).1⟩

end AssetExchange
