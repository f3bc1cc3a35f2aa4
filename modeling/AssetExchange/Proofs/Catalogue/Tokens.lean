import AssetExchange.Catalogue.Plugin
import AssetExchange.Manager.Basic
import AssetExchange.Proofs.Text.Numerals

/-!
# Tokens of a catalogue's states

The token of a state is its number behind a fixed beginning.  A catalogue also accepts the
number with a plus sign or with zeros in front of it, and nothing else
(`tokenNumber?_eq_some_iff`).  So a number comes back from its token, while a token comes
back from the state that it stands for only if it is canonical (`token_eq_iff`).  The main
statement is `tokens_restored`, for the catalogue and for a host that holds it.
-/

namespace AssetExchange

theorem Reply.answer_mapOk_eq_ok_iff {sigma alpha beta : Type} {change : alpha → beta}
    {reply : Reply sigma (Outcome alpha)} {result : beta} :
    (reply.mapOk change).answer = .ok result ↔
      ∃ value, reply.answer = .ok value ∧ change value = result := by
  rcases reply with ⟨error | value, state, messages⟩
  · simp [mapOk, map, Except.map]
  · simp [mapOk, map, Except.map]

namespace Catalogue

open Text (spell numberOf Unpadded)

variable {text : String} {number : Nat} {catalogue : Catalogue}

/-! ## What tokens stand for -/

/-- The text stands for the state with a number, which is a word.  A plus sign may come
before the digits, and they may begin with zeros. -/
def StandsFor (text : String) (number : Nat) : Prop :=
  ∃ sign digits, (sign = "" ∨ sign = "+") ∧ digits ≠ [] ∧
    text = "stub-state:" ++ sign ++ String.ofList (spell digits) ∧
    numberOf digits = number ∧ number < 2 ^ 64

/-- Neither a sign nor zeros stand in front of the number. -/
def IsCanonical (text : String) : Prop :=
  ∃ digits, Unpadded digits ∧ text = "stub-state:" ++ String.ofList (spell digits)

/-- Restores the state that a text stands for and asks for its token. -/
def reencode (text : String) : Request Catalogue (Outcome String) :=
  fun catalogue => (plugin.stateFromToken text catalogue).bindOk plugin.tokenForState

theorem tokenNumber?_eq_some_iff : tokenNumber? text = some number ↔ StandsFor text number := by
  rw [tokenNumber?, Option.bind_eq_some_iff]
  constructor
  · rintro ⟨rest, beginning, read⟩
    rw [Text.afterPrefix?_eq_some_iff] at beginning
    obtain ⟨sign, digits, optional, nonempty, rfl, value, small⟩ :=
      (Text.unsigned?_eq_some_iff_spell wordLimit rest number).1 read
    refine ⟨String.ofList sign, digits, ?_, nonempty, ?_, value, small⟩
    · exact optional.imp (congrArg String.ofList) (congrArg String.ofList)
    · rw [← String.toList_inj, beginning]
      simp [tokenBeginning]
  · rintro ⟨sign, digits, optional, nonempty, rfl, value, small⟩
    refine ⟨sign.toList ++ spell digits, ?_, ?_⟩
    · rw [Text.afterPrefix?_eq_some_iff]
      simp [tokenBeginning]
    · apply (Text.unsigned?_eq_some_iff_spell wordLimit _ number).2
      have noneOrPlus : sign.toList = [] ∨ sign.toList = ['+'] :=
        optional.imp (congrArg String.toList) (congrArg String.toList)
      exact ⟨sign.toList, digits, noneOrPlus, nonempty, rfl, value, small⟩

/-- The last word is accepted with a sign and zeros, the number after it is not. -/
example : tokenNumber? "stub-state:+0018446744073709551615" = some (2 ^ 64 - 1) ∧
    tokenNumber? "stub-state:18446744073709551616" = none := by
  decide

theorem StandsFor.lt (standsFor : StandsFor text number) : number < wordLimit := by
  obtain ⟨sign, digits, optional, nonempty, same, value, small⟩ := standsFor
  exact small

/-- The token of a number is the digits that it is written with. -/
theorem exists_token_eq (number : Nat) :
    ∃ digits, Unpadded digits ∧ numberOf digits = number ∧
      token number = "stub-state:" ++ String.ofList (spell digits) := by
  obtain ⟨digits, written, unpadded, value⟩ := Text.exists_spell_decimalDigits number
  refine ⟨digits, unpadded, value, ?_⟩
  rw [token, Text.decimal, written, tokenBeginning]

theorem isCanonical_token (number : Nat) : IsCanonical (token number) := by
  obtain ⟨digits, unpadded, value, same⟩ := exists_token_eq number
  exact ⟨digits, unpadded, same⟩

theorem standsFor_token (small : number < wordLimit) : StandsFor (token number) number := by
  obtain ⟨digits, unpadded, value, same⟩ := exists_token_eq number
  exact ⟨"", digits, .inl rfl, unpadded.ne_nil, same, value, small⟩

/-- The sign, if there is one, is not one of the digits. -/
theorem StandsFor.numberOf_eq {digits : List (Fin 10)}
    (standsFor : StandsFor ("stub-state:" ++ String.ofList (spell digits)) number) :
    numberOf digits = number := by
  obtain ⟨sign, others, optional, nonempty, same, value, small⟩ := standsFor
  have characters : sign.toList ++ spell others = spell digits := by
    rw [← String.toList_inj] at same
    simpa using same.symm
  have noneOrPlus : sign.toList = [] ∨ sign.toList = ['+'] :=
    optional.imp (congrArg String.toList) (congrArg String.toList)
  have unsigned : spell others = spell digits := by
    rw [← Text.afterPlus_sign_spell noneOrPlus others, characters, Text.afterPlus_spell]
  rw [← value, Text.spell_injective unsigned]

/-- The canonical text for a number is its token. -/
theorem token_eq_iff (standsFor : StandsFor text number) :
    token number = text ↔ IsCanonical text := by
  constructor
  · rintro rfl
    exact isCanonical_token number
  · rintro ⟨plain, unpadded, rfl⟩
    obtain ⟨written, writtenUnpadded, value, same⟩ := exists_token_eq number
    rw [same, writtenUnpadded.eq_of_numberOf_eq unpadded (value.trans standsFor.numberOf_eq.symm)]

/-! ## What a catalogue answers -/

theorem stateFromToken_of_standsFor (standsFor : StandsFor text number)
    (catalogue : Catalogue) :
    plugin.stateFromToken text catalogue =
      ⟨.ok (.numbered number none), catalogue.recordCall .stateFromToken, []⟩ := by
  simp only [plugin, counting, tokenNumber?_eq_some_iff.2 standsFor]
  rfl

theorem stateFromToken_of_not (meaningless : ∀ number, ¬ StandsFor text number)
    (catalogue : Catalogue) :
    plugin.stateFromToken text catalogue =
      ⟨.error (.inputValidation ("Invalid persistence token '" ++ text ++ "'")),
        catalogue.recordCall .stateFromToken, []⟩ := by
  have unread : tokenNumber? text = none :=
    Option.eq_none_iff_forall_ne_some.2 fun number read =>
      meaningless number (tokenNumber?_eq_some_iff.1 read)
  simp only [plugin, counting, unread]
  rfl

theorem answer_stateFromToken_eq_ok_iff {state : ContextState} :
    (plugin.stateFromToken text catalogue).answer = .ok state ↔
      ∃ number, StandsFor text number ∧ state = .numbered number none := by
  constructor
  · intro restored
    by_cases meaning : ∃ number, StandsFor text number
    · obtain ⟨number, standsFor⟩ := meaning
      rw [stateFromToken_of_standsFor standsFor] at restored
      cases restored
      exact ⟨number, standsFor, rfl⟩
    · rw [stateFromToken_of_not (not_exists.1 meaning)] at restored
      cases restored
  · rintro ⟨number, standsFor, rfl⟩
    rw [stateFromToken_of_standsFor standsFor]

theorem answer_reencode (standsFor : StandsFor text number) (catalogue : Catalogue) :
    (reencode text catalogue).answer = .ok (token number) := by
  rw [reencode, stateFromToken_of_standsFor standsFor]
  rfl

theorem contextOfToken_eq (nonempty : text ≠ "") (manager : Manager Catalogue) :
    Manager.contextOfToken plugin text manager =
      (Manager.pass (plugin.stateFromToken text) manager).mapOk
        fun state => ⟨.empty, some state⟩ := by
  rw [Manager.contextOfToken, if_neg (mt String.isEmpty_iff.1 nonempty)]

theorem StandsFor.ne_empty (standsFor : StandsFor text number) : text ≠ "" := by
  obtain ⟨sign, digits, optional, nonempty, rfl, value, small⟩ := standsFor
  simp

/-! ## Restoring -/

/-- What a host that holds a catalogue may rely on. -/
structure TokenLaw (manager : Manager Catalogue) : Prop where
  /-- The token of a state stands for its number, and not only to this catalogue. -/
  restored : ∀ number parent, number < 2 ^ 64 →
    ∃ text, (plugin.tokenForState (.numbered number parent) manager.state).answer = .ok text ∧
      ∀ later : Catalogue,
        (plugin.stateFromToken text later).answer = .ok (.numbered number none)
  accepted : ∀ text state, (plugin.stateFromToken text manager.state).answer = .ok state ↔
    ∃ number, StandsFor text number ∧ state = .numbered number none
  /-- A text that stands for nothing is counted, and nothing else happens. -/
  refused : ∀ text, (∀ number, ¬ StandsFor text number) →
    plugin.stateFromToken text manager.state =
      ⟨.error (.inputValidation ("Invalid persistence token '" ++ text ++ "'")),
        manager.state.recordCall .stateFromToken, []⟩
  /-- The token of a restored state restores it again and is its own token then.  It is the
  one that was restored first only if that was canonical. -/
  reencoded : ∀ text state, (plugin.stateFromToken text manager.state).answer = .ok state →
    ∃ canonical, (reencode text manager.state).answer = .ok canonical ∧
      IsCanonical canonical ∧ (canonical = text ↔ IsCanonical text) ∧
      ∀ later, (plugin.stateFromToken canonical later).answer = .ok state ∧
        (reencode canonical later).answer = .ok canonical
  /-- A context comes back without its locale, and its state without the parent. -/
  context_restored : ∀ locale number parent, number < 2 ^ 64 →
    ∃ text, (Manager.persistenceToken plugin ⟨locale, some (.numbered number parent)⟩
        manager).answer = .ok text ∧
      ∀ later, (Manager.contextOfToken plugin text later).answer =
        .ok ⟨.empty, some (.numbered number none)⟩
  context_accepted : ∀ text context, text ≠ "" →
    ((Manager.contextOfToken plugin text manager).answer = .ok context ↔
      ∃ number, StandsFor text number ∧ context = ⟨.empty, some (.numbered number none)⟩)
  context_refused : ∀ text, text ≠ "" → (∀ number, ¬ StandsFor text number) →
    Manager.contextOfToken plugin text manager =
      ⟨.error (.inputValidation ("Invalid persistence token '" ++ text ++ "'")),
        { manager with state := manager.state.recordCall .stateFromToken }, []⟩

theorem tokens_restored (manager : Manager Catalogue) : TokenLaw manager := by
  constructor
  case restored =>
    intro number parent small
    refine ⟨token number, rfl, fun later => ?_⟩
    rw [stateFromToken_of_standsFor (standsFor_token small)]
  case accepted =>
    intro text state
    exact answer_stateFromToken_eq_ok_iff
  case refused =>
    intro text meaningless
    exact stateFromToken_of_not meaningless manager.state
  case reencoded =>
    intro text state restored
    obtain ⟨number, standsFor, rfl⟩ := answer_stateFromToken_eq_ok_iff.1 restored
    have again : StandsFor (token number) number := standsFor_token standsFor.lt
    refine ⟨token number, answer_reencode standsFor manager.state, isCanonical_token number,
      token_eq_iff standsFor, fun later => ⟨?_, answer_reencode again later⟩⟩
    rw [stateFromToken_of_standsFor again]
  case context_restored =>
    intro locale number parent small
    have standsFor : StandsFor (token number) number := standsFor_token small
    refine ⟨token number, rfl, fun later => ?_⟩
    rw [contextOfToken_eq standsFor.ne_empty, Manager.pass,
      stateFromToken_of_standsFor standsFor]
    rfl
  case context_accepted =>
    intro text context nonempty
    rw [contextOfToken_eq nonempty, Reply.answer_mapOk_eq_ok_iff]
    constructor
    · rintro ⟨state, restored, rfl⟩
      obtain ⟨number, standsFor, rfl⟩ := answer_stateFromToken_eq_ok_iff.1 restored
      exact ⟨number, standsFor, rfl⟩
    · rintro ⟨number, standsFor, rfl⟩
      exact ⟨_, answer_stateFromToken_eq_ok_iff.2 ⟨number, standsFor, rfl⟩, rfl⟩
  case context_refused =>
    intro text nonempty meaningless
    rw [contextOfToken_eq nonempty, Manager.pass, stateFromToken_of_not meaningless]
    rfl

end Catalogue
end AssetExchange
