import AssetExchange.Proofs.Manager.Watching

/-!
# Requests about one entity

A request about one entity is the request about the list of it: it asks the manager for the
same, once, and comes back with the same error or with the only element of the list.  That
a list of results has one element is not checked anywhere else, but it follows from what a
collector can hold: no manager, whatever it reports and returns, makes a request about many
entities succeed with more or fewer results than entities (`length_of_many`).

`single_agrees` says so for every kind of request about entities (`EntityRequest`).
-/

namespace AssetExchange

variable {sigma pi alpha : Type}

/-- A request that can be made about one entity or many, without the entities and the data
that belong to each of them.  The index is the type of what is reported. -/
inductive EntityRequest : Type → Type
  | resolve (traits : TraitSet) (access : ResolveAccess) (context : Context) :
      EntityRequest TraitsData
  | preflight (access : PublishingAccess) (context : Context) : EntityRequest EntityReference
  | register (access : PublishingAccess) (context : Context) : EntityRequest EntityReference
  | entityExists (context : Context) : EntityRequest Bool
  | entityTraits (access : EntityTraitsAccess) (context : Context) : EntityRequest TraitSet

namespace EntityRequest

/-- The request about many entities.  Only publishing makes use of the data. -/
def many (plugin : Plugin sigma pi) (policy : ErrorPolicy)
    (references : List EntityReference) (datas : List TraitsData) :
    EntityRequest alpha → Request (Manager sigma) (Outcome (List (policy.Element alpha)))
  | resolve traits access context =>
      Manager.resolveMany plugin policy references traits access context
  | preflight access context =>
      Manager.preflightMany plugin policy references datas access context
  | register access context =>
      Manager.registerMany plugin policy references datas access context
  | entityExists context => Manager.entityExistsMany plugin policy references context
  | entityTraits access context =>
      Manager.entityTraitsMany plugin policy references access context

def one (plugin : Plugin sigma pi) (policy : ErrorPolicy) (reference : EntityReference)
    (data : TraitsData) :
    EntityRequest alpha → Request (Manager sigma) (Outcome (policy.Element alpha))
  | resolve traits access context =>
      Manager.resolveOne plugin policy reference traits access context
  | preflight access context =>
      Manager.preflightOne plugin policy reference data access context
  | register access context => Manager.registerOne plugin policy reference data access context
  | entityExists context => Manager.entityExistsOne plugin policy reference context
  | entityTraits access context =>
      Manager.entityTraitsOne plugin policy reference access context

def batch (references : List EntityReference) (datas : List TraitsData) :
    EntityRequest alpha → BatchCall pi alpha
  | resolve traits access context => .resolve references traits access context
  | preflight access context => .preflight references datas access context
  | register access context => .register references datas access context
  | entityExists context => .entityExists references context
  | entityTraits access context => .entityTraits references access context

/-- The access that errors of elements mention. -/
def access? : EntityRequest alpha → Option Access
  | resolve _ access _ => some access.mode
  | preflight access _ => some access.mode
  | register access _ => some access.mode
  | entityExists _ => none
  | entityTraits access _ => some access.mode

theorem many_eq (plugin : Plugin sigma pi) (policy : ErrorPolicy)
    (references : List EntityReference) (datas : List TraitsData)
    (request : EntityRequest alpha) :
    request.many plugin policy references datas =
      Manager.collect policy references request.access?
        ((request.batch references datas).ask plugin) := by
  cases request <;> rfl

theorem one_eq (plugin : Plugin sigma pi) (policy : ErrorPolicy)
    (reference : EntityReference) (data : TraitsData) (request : EntityRequest alpha) :
    request.one plugin policy reference data =
      Manager.one (request.many plugin policy [reference] [data]) := by
  cases request <;> rfl

/-- Lists of one element belong together. -/
theorem check_batch_singleton (reference : EntityReference) (data : TraitsData)
    (request : EntityRequest alpha) :
    (request.batch [reference] [data] : BatchCall pi alpha).check = none := by
  cases request <;> rfl

end EntityRequest

/-! ## What the rules leave for one element -/

section Rulings

variable {policy : ErrorPolicy} {subjects : List EntityReference} {access : Option Access}
  {reports : List (Report alpha)} {returned : Outcome Unit}

theorem Ruling.length_eq {elements : List (policy.Element alpha)}
    (ruling : Ruling policy subjects access reports returned (.ok elements)) :
    elements.length = subjects.length := by
  cases ruling with
  | complete _ dutiful errorFree sameLength reported =>
      exact sameLength

theorem head?_toList_append {beginning : String} {letter : Char}
    (first : beginning.toList.head? = some letter) (rest : String) :
    (beginning ++ rest).toList.head? = some letter := by
  rw [String.toList_append, List.head?_append, first, Option.some_or]

/-- What is said about the manager begins with another letter than what is said about a
batch of one element. -/
theorem Fault.message_ne {fault : Fault} (first : fault.message.toList.head? = some 'M') :
    fault.message ≠ Fault.notOneResult.message := by
  intro same
  rw [same] at first
  exact absurd first (by decide)

theorem FirstBreach.message_ne {size : Nat} {fault : Fault}
    (first : FirstBreach size reports fault) : fault.message ≠ Fault.notOneResult.message := by
  obtain ⟨before, report, after, _, _, broken⟩ := first
  unfold breach? at broken
  split at broken
  · cases broken
    apply Fault.message_ne
    exact head?_toList_append (head?_toList_append (head?_toList_append rfl _) _) _
  · split at broken
    · cases broken
      apply Fault.message_ne
      exact head?_toList_append rfl _
    · cases broken

theorem Ruling.returned_of_notOneResult
    (ruling : Ruling policy subjects access reports returned
      (.error Fault.notOneResult.toError)) :
    returned = .error Fault.notOneResult.toError := by
  generalize raised : Fault.notOneResult.toError = error at ruling
  cases ruling with
  | callFailed _ =>
      rfl
  | breached fault first =>
      exact absurd (ApiError.unhandled.inj raised).symm first.message_ne
  | elementFailed index error dutiful strict first =>
      cases raised
  | unreported index dutiful errorFree inside missing smallest =>
      have different : (Fault.missingResult index).message ≠ Fault.notOneResult.message :=
        Fault.message_ne (head?_toList_append rfl _)
      exact absurd (ApiError.unhandled.inj raised).symm different

end Rulings

/-! ## The same request -/

namespace EntityRequest

variable {plugin : Plugin sigma pi} {policy : ErrorPolicy} {request : EntityRequest alpha}
  {references : List EntityReference} {datas : List TraitsData} {reference : EntityReference}
  {data : TraitsData} {manager : Manager sigma}

/-- Results that come back are as many as the entities, whatever the manager did. -/
theorem length_of_many {elements : List (policy.Element alpha)}
    (done : (request.many plugin policy references datas manager).answer = .ok elements) :
    elements.length = references.length := by
  rw [many_eq, collect_answer_eq_iff] at done
  exact done.length_eq

/-- Either both requests fail with one error, or the result of the one about a single
entity is the only result of the other. -/
theorem answers_cases (plugin : Plugin sigma pi) (policy : ErrorPolicy)
    (request : EntityRequest alpha) (reference : EntityReference) (data : TraitsData)
    (manager : Manager sigma) :
    (∃ error, (request.many plugin policy [reference] [data] manager).answer = .error error ∧
        (request.one plugin policy reference data manager).answer = .error error) ∨
      ∃ element, (request.many plugin policy [reference] [data] manager).answer =
          .ok [element] ∧
        (request.one plugin policy reference data manager).answer = .ok element := by
  have unwrapped : (request.one plugin policy reference data manager).answer =
      (request.many plugin policy [reference] [data] manager).answer.bind Manager.single := by
    rw [one_eq]
    rfl
  rw [unwrapped]
  cases answered : (request.many plugin policy [reference] [data] manager).answer with
  | error error =>
      exact .inl ⟨error, rfl, rfl⟩
  | ok elements =>
      obtain ⟨element, rfl⟩ := List.length_eq_one_iff.1 (length_of_many answered)
      exact .inr ⟨element, rfl, rfl⟩

/-- The host raises no error for a batch of one element. -/
theorem returned_of_one_eq_notOneResult
    (raised : (request.one plugin policy reference data manager).answer =
      .error Fault.notOneResult.toError) :
    (policy.hears ((request.batch [reference] [data]).make plugin manager.state)).2.answer =
      .error Fault.notOneResult.toError := by
  rcases answers_cases plugin policy request reference data manager with
    ⟨error, failed, same⟩ | ⟨element, _, done⟩
  · rw [raised] at same
    cases same
    rw [many_eq, collect_answer_eq_iff] at failed
    have returned := failed.returned_of_notOneResult
    rw [ErrorPolicy.hears, BatchCall.transcript_ask (check_batch_singleton ..)] at returned
    exact returned
  · rw [raised] at done
    cases done

/-- Lists of one element reach the manager, which is asked once. -/
theorem askedOnce_many (plugin : Plugin sigma pi) (policy : ErrorPolicy)
    (request : EntityRequest alpha) (reference : EntityReference) (data : TraitsData) :
    AskedOnce plugin (request.batch [reference] [data] : BatchCall pi alpha).asked fun other =>
      request.many other policy [reference] [data] := by
  have passed : (request.batch [reference] [data] : BatchCall pi alpha).check = none :=
    check_batch_singleton reference data request
  simp only [many_eq]
  exact BatchCall.askedOnce_collect passed plugin policy [reference] request.access?

theorem askedOnce_one (plugin : Plugin sigma pi) (policy : ErrorPolicy)
    (request : EntityRequest alpha) (reference : EntityReference) (data : TraitsData) :
    AskedOnce plugin (request.batch [reference] [data] : BatchCall pi alpha).asked fun other =>
      request.one other policy reference data := by
  intro manager
  have many := askedOnce_many plugin policy request reference data manager
  simp only [one_eq, Manager.one, many]
  rfl

/-- What a host may rely on when it makes a request about one entity. -/
structure SingleLaw (plugin : Plugin sigma pi) (policy : ErrorPolicy)
    (request : EntityRequest alpha) : Prop where
  /-- The manager is asked once, and for the same as by the request about the list. -/
  asked_one : ∀ reference data,
    AskedOnce plugin (request.batch [reference] [data] : BatchCall pi alpha).asked fun other =>
      request.one other policy reference data
  asked_many : ∀ reference data,
    AskedOnce plugin (request.batch [reference] [data] : BatchCall pi alpha).asked fun other =>
      request.many other policy [reference] [data]
  effect : ∀ reference data manager,
    (request.one plugin policy reference data manager).state =
        (request.many plugin policy [reference] [data] manager).state ∧
      (request.one plugin policy reference data manager).messages =
        (request.many plugin policy [reference] [data] manager).messages
  ok_iff : ∀ reference data manager element,
    (request.one plugin policy reference data manager).answer = .ok element ↔
      (request.many plugin policy [reference] [data] manager).answer = .ok [element]
  error_iff : ∀ reference data manager error,
    (request.one plugin policy reference data manager).answer = .error error ↔
      (request.many plugin policy [reference] [data] manager).answer = .error error
  /-- That a batch of one element did not give one result is an error that only the manager
  itself can return from the batch request. -/
  returned : ∀ reference data manager,
    (request.one plugin policy reference data manager).answer =
        .error (.unhandled "Expected exactly one result for a single-element batch") →
      (policy.hears ((request.batch [reference] [data]).make plugin manager.state)).2.answer =
        .error (.unhandled "Expected exactly one result for a single-element batch")
  length_eq : ∀ references datas manager elements,
    (request.many plugin policy references datas manager).answer = .ok elements →
      elements.length = references.length

/-- A request about one entity is the one about a list of it, for every kind of request,
either policy and every manager. -/
theorem single_agrees (plugin : Plugin sigma pi) (policy : ErrorPolicy)
    (request : EntityRequest alpha) : SingleLaw plugin policy request := by
  constructor
  case asked_one =>
    exact askedOnce_one plugin policy request
  case asked_many =>
    exact askedOnce_many plugin policy request
  case effect =>
    intro reference data manager
    rw [one_eq]
    exact ⟨rfl, rfl⟩
  case ok_iff =>
    intro reference data manager element
    rcases answers_cases plugin policy request reference data manager with
      ⟨error, failed, same⟩ | ⟨only, done, same⟩
    · rw [failed, same]
      exact iff_of_false nofun nofun
    · rw [done, same]
      simp
  case error_iff =>
    intro reference data manager error
    rcases answers_cases plugin policy request reference data manager with
      ⟨_, failed, same⟩ | ⟨only, done, same⟩
    · rw [failed, same]
      simp
    · rw [done, same]
      exact iff_of_false nofun nofun
  case returned =>
    intro reference data manager raised
    exact returned_of_one_eq_notOneResult raised
  case length_eq =>
    intro references datas manager elements done
    exact length_of_many done

end EntityRequest

end AssetExchange
