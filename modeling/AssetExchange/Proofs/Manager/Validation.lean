import AssetExchange.Proofs.Catalogue.Pairing
import AssetExchange.Proofs.Manager.Watching

/-!
# Checks that come before a request

Publishing requests need as many data as references, and requests for pagers need room for
a reference on each page.  A host finds out before it asks the manager: the request fails
and nothing else happens at all (`Refused`), or the manager is asked once (`AskedOnce`).
`checked_first` says so of every request that is checked, for every manager.

A catalogue that is asked to publish pairs the lists up.  As they are of one length by then
nothing is dropped: the element at an index is the reference and the data at this index.
-/

namespace AssetExchange

variable {sigma pi alpha beta : Type}

/-! ## Requests that are checked -/

/-- The request fails for its arguments.  Nothing is logged, and the manager is as it was,
for the host and in itself. -/
def Refused (request : Request (Manager sigma) (Outcome alpha)) (message : String) : Prop :=
  ∀ manager, request manager = ⟨.error (.inputValidation message), manager, []⟩

/-- The same of a batch request, which reports nothing either. -/
def BatchRefused (request : BatchRequest (Manager sigma) alpha) (message : String) : Prop :=
  ∀ manager, request manager = .done ⟨.error (.inputValidation message), manager, []⟩

/-- If the arguments fit, the manager is asked once.  Otherwise the request is refused, and
the manager is asked for nothing. -/
def CheckedFirst (plugin : Plugin sigma pi) (fits : Prop) (call : BatchCall pi beta)
    (message : String)
    (request : {tau : Type} → Plugin tau pi → Request (Manager tau) (Outcome alpha)) : Prop :=
  (fits → AskedOnce plugin call.asked request) ∧
    (¬ fits → Refused (request plugin) message ∧ Refused (request plugin.watched) message)

def BatchCheckedFirst (plugin : Plugin sigma pi) (fits : Prop) (call : BatchCall pi alpha)
    (message : String)
    (request : {tau : Type} → Plugin tau pi → BatchRequest (Manager tau) alpha) : Prop :=
  (fits → BatchAskedOnce plugin call.asked request) ∧
    (¬ fits →
      BatchRefused (request plugin) message ∧ BatchRefused (request plugin.watched) message)

/-- The check of a batch request passes if the arguments fit, and else fails with a fault
that is told in these words. -/
structure Checks (call : BatchCall pi alpha) (fits : Prop) (message : String) : Prop where
  accepts : fits → call.check = none
  rejects : ¬ fits → ∃ fault, call.check = some fault ∧ fault.toError = .inputValidation message

namespace Checks

variable {call : BatchCall pi alpha} {fits : Prop} {message : String}

theorem refused (checks : Checks call fits message) (unfit : ¬ fits)
    (plugin : Plugin sigma pi) : BatchRefused (call.ask plugin) message := by
  obtain ⟨fault, checked, told⟩ := checks.rejects unfit
  intro manager
  rw [BatchCall.ask_eq, checked, ← told]
  rfl

theorem first (checks : Checks call fits message) (plugin : Plugin sigma pi) :
    BatchCheckedFirst plugin fits call message fun other => call.ask other := by
  constructor
  · intro fit
    exact BatchCall.askedOnce_ask (checks.accepts fit) plugin
  · intro unfit
    exact ⟨checks.refused unfit plugin, checks.refused unfit plugin.watched⟩

theorem collectFirst (checks : Checks call fits message) (plugin : Plugin sigma pi)
    (policy : ErrorPolicy) (subjects : List EntityReference) (access : Option Access) :
    CheckedFirst plugin fits call message fun other =>
      Manager.collect policy subjects access (call.ask other) := by
  constructor
  · intro fit
    exact BatchCall.askedOnce_collect (checks.accepts fit) plugin policy subjects access
  · intro unfit
    have refused : ∀ {tau : Type} (other : Plugin tau pi),
        Refused (Manager.collect policy subjects access (call.ask other)) message := by
      intro tau other manager
      rw [Manager.collect, checks.refused unfit other manager]
      rfl
    exact ⟨refused plugin, refused plugin.watched⟩

end Checks

/-! ## The two checks -/

def lengthsMessage (references others : Nat) (othersName : String) : String :=
  "Parameter lists must be of the same length: " ++ toString references ++
    " entity references vs. " ++ toString others ++ " " ++ othersName ++ "."

theorem checks_lengths {references others : Nat} {othersName : String}
    (call : BatchCall pi alpha)
    (checked : call.check = Manager.checkLengths references others othersName) :
    Checks call (references = others) (lengthsMessage references others othersName) := by
  constructor
  case accepts =>
    intro same
    rw [checked, Manager.checkLengths, if_neg (not_not_intro same)]
  case rejects =>
    intro different
    rw [checked, Manager.checkLengths, if_pos different]
    exact ⟨_, rfl, rfl⟩

example : lengthsMessage 3 1 "traits datas" =
    "Parameter lists must be of the same length: 3 entity references vs. 1 traits datas." := by
  decide

theorem checks_pageSize {pageSize : Nat} (call : BatchCall pi alpha)
    (checked : call.check = Manager.checkPageSize pageSize) :
    Checks call (0 < pageSize) "pageSize must be greater than zero." := by
  constructor
  case accepts =>
    intro positive
    rw [checked, Manager.checkPageSize, if_neg (Nat.ne_of_gt positive)]
  case rejects =>
    intro zero
    rw [checked, Manager.checkPageSize, if_pos (Nat.eq_zero_of_not_pos zero)]
    exact ⟨_, rfl, rfl⟩

/-! ## The law -/

/-- What a host may rely on when it makes requests whose arguments may not fit. -/
structure ValidationLaw (plugin : Plugin sigma pi) : Prop where
  preflight : ∀ references hints access context,
    BatchCheckedFirst plugin (references.length = hints.length)
      (.preflight references hints access context)
      (lengthsMessage references.length hints.length "traits hints")
      fun other => Manager.preflight other references hints access context
  preflightMany : ∀ policy references hints access context,
    CheckedFirst plugin (references.length = hints.length)
      (.preflight references hints access context)
      (lengthsMessage references.length hints.length "traits hints")
      fun other => Manager.preflightMany other policy references hints access context
  register : ∀ references datas access context,
    BatchCheckedFirst plugin (references.length = datas.length)
      (.register references datas access context)
      (lengthsMessage references.length datas.length "traits datas")
      fun other => Manager.register other references datas access context
  registerMany : ∀ policy references datas access context,
    CheckedFirst plugin (references.length = datas.length)
      (.register references datas access context)
      (lengthsMessage references.length datas.length "traits datas")
      fun other => Manager.registerMany other policy references datas access context
  relatedToMany : ∀ references relationship resultTraits pageSize access context,
    BatchCheckedFirst plugin (0 < pageSize)
      (.relatedToMany references relationship resultTraits pageSize access context)
      "pageSize must be greater than zero."
      fun other =>
        Manager.relatedToMany other references relationship resultTraits pageSize access context
  relatedByMany : ∀ reference relationships resultTraits pageSize access context,
    BatchCheckedFirst plugin (0 < pageSize)
      (.relatedByMany reference relationships resultTraits pageSize access context)
      "pageSize must be greater than zero."
      fun other =>
        Manager.relatedByMany other reference relationships resultTraits pageSize access context

theorem validationLaw (plugin : Plugin sigma pi) : ValidationLaw plugin := by
  constructor
  case preflight =>
    intro references hints access context
    exact (checks_lengths (.preflight references hints access context) rfl).first plugin
  case preflightMany =>
    intro policy references hints access context
    exact (checks_lengths (.preflight references hints access context) rfl).collectFirst plugin
      policy references (some access.mode)
  case register =>
    intro references datas access context
    exact (checks_lengths (.register references datas access context) rfl).first plugin
  case registerMany =>
    intro policy references datas access context
    exact (checks_lengths (.register references datas access context) rfl).collectFirst plugin
      policy references (some access.mode)
  case relatedToMany =>
    intro references relationship resultTraits pageSize access context
    exact (checks_pageSize
      (.relatedToMany references relationship resultTraits pageSize access context)
      rfl).first plugin
  case relatedByMany =>
    intro reference relationships resultTraits pageSize access context
    exact (checks_pageSize
      (.relatedByMany reference relationships resultTraits pageSize access context)
      rfl).first plugin

/-- Arguments are checked before a manager is asked, whatever the manager is.  The lists that
a catalogue is asked to publish are of one length then, and it pairs them up without loss. -/
theorem checked_first :
    (∀ (sigma pi : Type) (plugin : Plugin sigma pi), ValidationLaw plugin) ∧
      ∀ (references : List EntityReference) (datas : List TraitsData) access context manager,
        references.length = datas.length →
          Paired references datas access context manager :=
  ⟨fun _ _ plugin => validationLaw plugin,
    fun _ _ access context manager sameLength => paired sameLength access context manager⟩

/-- Two references with their data are published, and a third one makes a host refuse. -/
theorem checked_first_register :
    let manager : Manager Catalogue := .ofState (.named "stock")
    let datas := [bundle "first", bundle "second"]
    (((Manager.register Catalogue.plugin [⟨"a"⟩, ⟨"b"⟩] datas creatingRelated .empty
          manager).transcript (fun _ => .proceed) []).2.state.state.entity? "b" =
        some (bundle "second")) ∧
      Manager.register Catalogue.plugin [⟨"a"⟩, ⟨"b"⟩, ⟨"c"⟩] datas creatingRelated .empty
          manager =
        .done ⟨.error (.inputValidation (lengthsMessage 3 2 "traits datas")), manager, []⟩ := by
  intro manager datas
  obtain ⟨validated, pairs⟩ := checked_first
  constructor
  · have two := pairs [⟨"a"⟩, ⟨"b"⟩] datas creatingRelated .empty manager rfl
    have elsewhere : ∀ other : Nat,
        ([⟨"a"⟩, ⟨"b"⟩] : List EntityReference)[other]?.map EntityReference.text = some "b" →
          other = 1 := by
      intro other same
      rcases other with _ | _ | beyond
      · exact absurd same (by decide)
      · rfl
      · cases same
    exact two.stored rfl _ (fun _ => rfl) 1 ⟨"b"⟩ _ rfl rfl elsewhere rfl
  · have register := (validated Catalogue CataloguePager Catalogue.plugin).register
      [⟨"a"⟩, ⟨"b"⟩, ⟨"c"⟩] datas creatingRelated .empty
    have refused := register.2 (by decide)
    exact refused.1 manager

end AssetExchange
