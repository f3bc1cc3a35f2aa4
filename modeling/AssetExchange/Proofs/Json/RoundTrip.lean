import AssetExchange.Config.Encoding
import AssetExchange.Proofs.Json.Faithful
import AssetExchange.Severity

/-!
# Reading the data model back

Every value of the data model whose numbers are finite is found again in its document
value, which a text can hold, and a document value that can be read at all stands for such a value
(`dataModel_roundTrips`).  Values keep their kind: an integer does not become a
double-precision number, nor a string a number, and zero keeps its sign.

The one place where document values hold more than the data model are integers beyond the
signed words.  They are read as double-precision numbers, which are finite
(`Binary64.isFinite_ofInt`).
-/

namespace AssetExchange

/-! ## Finite numbers -/

namespace Binary64

theorem magnitudeBits_ofMagnitude {magnitude : Nat} (small : magnitude < infinityBits) :
    (ofMagnitude false magnitude).magnitudeBits = magnitude := by
  have belowSign : magnitude < signPlace := Nat.lt_trans small (by decide)
  have fits : magnitude < 2 ^ 64 := Nat.lt_trans small (by decide)
  have bits : (ofMagnitude false magnitude).bits.toNat = magnitude := by
    rw [ofMagnitude, if_neg Bool.false_ne_true, UInt64.toNat_ofNat', Nat.mod_eq_of_lt fits]
  rw [magnitudeBits, bits, Nat.mod_eq_of_lt belowSign]

theorem roundedQuotient_le (numerator denominator : Nat) :
    roundedQuotient numerator denominator ≤ numerator / denominator + 1 := by
  unfold roundedQuotient
  dsimp only
  split
  · omega
  · split
    · omega
    · omega

/-- A number between the two bounds has sixty-four significant bits, eleven more than there
is room for. -/
theorem ofInt_of_large {number : Nat} (low : signPlace ≤ number)
    (high : number < wordLimit) :
    ofInt number =
      ofMagnitude false
        (min (1085 * leadingPlace + roundedMultiple number 1 11) infinityBits) := by
  have nonzero : number ≠ 0 := by
    rintro rfl
    exact absurd low (by decide)
  have size : number.log2 = 63 := (Nat.log2_eq_iff nonzero).mpr ⟨low, high⟩
  have one : Nat.log2 1 = 0 := by decide
  have wide : ¬number < 1 * Nat.pow 2 (Int.toNat 10 + 53) := by
    rw [Nat.one_mul]
    exact Nat.not_lt.mpr low
  have positive : decide ((number : Int) < 0) = false :=
    decide_eq_false (Int.not_lt.mpr (Int.natCast_nonneg number))
  have estimate : ((63 : Nat) : Int) - ((0 : Nat) : Int) - 53 = 10 := by decide
  have atLeastZero : (0 : Int) ≤ 10 := by decide
  have exponent : max ((10 : Int) + 1) (-1074) = 11 := by decide
  simp only [ofInt, ofRatio, Int.natAbs_natCast, if_neg nonzero, size, one, positive, estimate,
    if_pos atLeastZero, decide_eq_true_eq, if_neg wide, exponent]
  rfl

/-- The integers that fit an unsigned word but no signed one are rounded to eleven places,
far below the largest finite number. -/
theorem isFinite_ofInt {value : Int} (low : signPlace ≤ value) (high : value < wordLimit) :
    (ofInt value).isFinite = true := by
  obtain ⟨number, rfl⟩ : ∃ number : Nat, value = number :=
    Int.eq_ofNat_of_zero_le (Int.le_trans (by decide) low)
  have atLeast : signPlace ≤ number := Int.ofNat_le.mp low
  have below : number < wordLimit := Int.ofNat_lt.mp high
  have rounded : roundedMultiple number 1 11 ≤ 2 ^ 53 := by
    have bound := roundedQuotient_le number (1 * Nat.pow 2 11)
    have quotient : number / (1 * Nat.pow 2 11) < 2 ^ 53 :=
      Nat.div_lt_of_lt_mul below
    exact Nat.le_trans bound quotient
  have small : 1085 * leadingPlace + roundedMultiple number 1 11 < infinityBits := by
    unfold leadingPlace infinityBits leadingPlace
    omega
  rw [ofInt_of_large atLeast below, Nat.min_eq_left (Nat.le_of_lt small), isFinite,
    magnitudeBits_ofMagnitude small]
  exact decide_eq_true small

end Binary64

/-! ## Property values -/

def PropertyValue.isFinite : PropertyValue → Bool
  | float value => value.isFinite
  | _ => true

theorem faithful_propertyValue :
    Faithful PropertyValue.encode PropertyValue.decode PropertyValue.isFinite := by
  constructor
  case proper_encode =>
    intro value finite
    cases value with
    | bool value =>
        exact .bool value
    | int value =>
        obtain ⟨low, high⟩ := isSignedWord_toInt value
        exact .int low (Int.lt_trans high (by decide))
    | float value =>
        have own : value.isFinite = true := finite
        rw [PropertyValue.encode, if_pos own]
        exact .float own
    | text value =>
        exact .text value
  case decode_encode =>
    intro value finite
    cases value with
    | bool value =>
        rfl
    | int value =>
        rw [PropertyValue.encode, PropertyValue.decode, if_pos (isSignedWord_toInt value),
          Int64.ofInt_toInt]
    | float value =>
        have own : value.isFinite = true := finite
        rw [PropertyValue.encode, if_pos own]
        rfl
    | text value =>
        rfl
  case finite_of_decode =>
    intro json value proper decoded
    cases proper with
    | @int number low high =>
        by_cases word : IsSignedWord number
        · rw [PropertyValue.decode, if_pos word] at decoded
          cases decoded
          rfl
        · rw [PropertyValue.decode, if_neg word] at decoded
          cases decoded
          have large : (signPlace : Int) ≤ number := by
            by_contra small
            exact word ⟨low, Int.not_le.mp small⟩
          exact Binary64.isFinite_ofInt large high
    | float finite =>
        cases decoded
        exact finite
    | bool value =>
        cases decoded
        rfl
    | text value =>
        cases decoded
        rfl
    | null =>
        cases decoded
    | list proper =>
        cases decoded
    | object proper =>
        cases decoded

def InfoDictionary.isFinite : InfoDictionary → Bool :=
  Dictionary.allFinite PropertyValue.isFinite

def TraitsData.isFinite (data : TraitsData) : Bool :=
  data.traits.allFinite InfoDictionary.isFinite

def ManagerConfig.isFinite (config : ManagerConfig) : Bool :=
  config.settings.isFinite

def AppConfig.isFinite (config : AppConfig) : Bool :=
  config.manager.all ManagerConfig.isFinite

theorem faithful_infoDictionary :
    Faithful InfoDictionary.encode InfoDictionary.decode InfoDictionary.isFinite :=
  faithful_dictionary faithful_propertyValue

theorem faithful_traitsData :
    Faithful TraitsData.encode TraitsData.decode TraitsData.isFinite := by
  have faithful := faithful_dictionary faithful_infoDictionary
  constructor
  case proper_encode =>
    intro data finite
    exact faithful.proper_encode data.traits finite
  case decode_encode =>
    intro data finite
    rw [TraitsData.encode, TraitsData.decode, faithful.decode_encode data.traits finite]
    rfl
  case finite_of_decode =>
    intro json data proper decoded
    obtain ⟨traits, read, rfl⟩ := ok_of_map decoded
    exact faithful.finite_of_decode json traits proper read

/-! ## Errors and configurations -/

theorem faithful_batchElementError :
    Faithful BatchElementError.encode BatchElementError.decode fun _ => true := by
  apply Faithful.of_decode_encode
  case proper =>
    rintro ⟨code, message⟩
    exact Json.proper_ofPair (.text _) (.text message)
  case readBack =>
    rintro ⟨code, message⟩
    have different : "code" ≠ "message" := by decide
    obtain ⟨codeRead, messageRead⟩ := field?_pair different
      ((faithful_named ErrorCode).decode_encode code rfl)
      (faithful_text.decode_encode message rfl)
    rw [BatchElementError.encode, Json.ofFields, BatchElementError.decode, codeRead,
      messageRead]
    rfl

theorem faithful_loggingConfig :
    Faithful LoggingConfig.encode LoggingConfig.decode fun _ => true := by
  apply Faithful.of_decode_encode
  case proper =>
    rintro ⟨level, format⟩
    exact Json.proper_ofPair (.text level) (.text _)
  case readBack =>
    rintro ⟨level, format⟩
    have different : "level" ≠ "format" := by decide
    obtain ⟨levelRead, formatRead⟩ := field?_pair different
      (faithful_text.decode_encode level rfl)
      ((faithful_named LogFormat).decode_encode format rfl)
    rw [LoggingConfig.encode, Json.ofFields, LoggingConfig.decode, formatRead, levelRead]
    rfl

theorem isFinite_settings {given : Option InfoDictionary}
    (finite : given.all InfoDictionary.isFinite = true) :
    InfoDictionary.isFinite (given.getD .empty) = true := by
  cases given with
  | none =>
      rfl
  | some settings =>
      exact finite

theorem faithful_managerConfig :
    Faithful ManagerConfig.encode ManagerConfig.decode ManagerConfig.isFinite := by
  constructor
  case proper_encode =>
    rintro ⟨identifier, settings⟩ finite
    exact Json.proper_ofPair (.text identifier)
      (faithful_infoDictionary.proper_encode settings finite)
  case decode_encode =>
    rintro ⟨identifier, settings⟩ finite
    have different : "identifier" ≠ "settings" := by decide
    obtain ⟨identifierRead, settingsRead⟩ := field?_pair different
      (faithful_text.decode_encode identifier rfl)
      (faithful_infoDictionary.decode_encode settings finite)
    rw [ManagerConfig.encode, Json.ofFields, ManagerConfig.decode, identifierRead, settingsRead]
    rfl
  case finite_of_decode =>
    intro json config proper decoded
    cases proper with
    | object proper =>
        obtain ⟨identifier, _, decoded⟩ := ok_of_bind decoded
        obtain ⟨settings, settingsRead, decoded⟩ := ok_of_bind decoded
        obtain ⟨name, _, decoded⟩ := ok_of_bind decoded
        cases decoded
        exact isFinite_settings (finite_of_field? faithful_infoDictionary proper settingsRead)
    | list proper =>
        obtain ⟨⟨identifier, others⟩, identifierRead, decoded⟩ := ok_of_bind decoded
        obtain ⟨name, _, decoded⟩ := ok_of_bind decoded
        obtain ⟨⟨settings, excess⟩, settingsRead, decoded⟩ := ok_of_bind decoded
        obtain ⟨_, _, decoded⟩ := ok_of_bind decoded
        cases decoded
        have others := (finite_of_item? faithful_text proper identifierRead).2
        exact isFinite_settings
          (finite_of_item? faithful_infoDictionary others settingsRead).1
    | _ =>
        cases decoded

theorem isFinite_manager {given : Option (Option ManagerConfig)}
    (finite : given.all (Option.all ManagerConfig.isFinite) = true) :
    given.join.all ManagerConfig.isFinite = true := by
  cases given with
  | none =>
      rfl
  | some manager =>
      exact finite

theorem faithful_appConfig :
    Faithful AppConfig.encode AppConfig.decode AppConfig.isFinite := by
  have optional := faithful_optional faithful_managerConfig fun _ => Json.noConfusion
  constructor
  case proper_encode =>
    rintro ⟨manager, logging⟩ finite
    have loggingProper := faithful_loggingConfig.proper_encode logging rfl
    cases manager with
    | none =>
        apply Json.proper_ofFields
        intro field member
        rw [List.mem_singleton.mp member]
        exact loggingProper
    | some manager =>
        exact Json.proper_ofPair (optional.proper_encode (some manager) finite) loggingProper
  case decode_encode =>
    rintro ⟨manager, logging⟩ finite
    cases manager with
    | none =>
        have distinct : ([("logging", logging.encode)].map Prod.fst).Nodup := by
          simp
        have absent : "manager" ∉ [("logging", logging.encode)].map Prod.fst := by
          simp
        have loggingRead := field?_of_mem distinct List.mem_cons_self
          (faithful_loggingConfig.decode_encode logging rfl)
        have managerRead : Decoder.field? (Decoder.optional ManagerConfig.decode) "manager"
            (Entries.ofList [("logging", logging.encode)]) = .ok none := by
          rw [Decoder.field?, Entries.get?_ofList_eq_none absent]
        rw [AppConfig.encode, Json.ofFields, List.nil_append, AppConfig.decode, loggingRead,
          managerRead]
        rfl
    | some manager =>
        have different : "manager" ≠ "logging" := by decide
        have present : Decoder.optional ManagerConfig.decode manager.encode =
            .ok (some manager) :=
          optional.decode_encode (some manager) finite
        obtain ⟨managerRead, loggingRead⟩ := field?_pair different present
          (faithful_loggingConfig.decode_encode logging rfl)
        rw [AppConfig.encode, Json.ofFields, List.singleton_append, AppConfig.decode,
          loggingRead, managerRead]
        rfl
  case finite_of_decode =>
    intro json config proper decoded
    cases proper with
    | object proper =>
        obtain ⟨logging, _, decoded⟩ := ok_of_bind decoded
        obtain ⟨manager, managerRead, decoded⟩ := ok_of_bind decoded
        cases decoded
        exact isFinite_manager (finite_of_field? optional proper managerRead)
    | list proper =>
        obtain ⟨⟨manager, others⟩, managerRead, decoded⟩ := ok_of_bind decoded
        obtain ⟨⟨logging, excess⟩, _, decoded⟩ := ok_of_bind decoded
        obtain ⟨_, _, decoded⟩ := ok_of_bind decoded
        cases decoded
        exact isFinite_manager (finite_of_item? optional proper managerRead).1
    | _ =>
        cases decoded

/-! ## The data model -/

/-- A type of named alternatives is read back. -/
def NamesRoundTrip (alpha : Type) [Enumerated alpha] : Prop :=
  RoundTrips (Enumerated.encode : alpha → Json) (Decoder.enumerated alpha) fun _ => true

/-- Every type of the data model is read back. -/
structure DataModelRoundTrips : Prop where
  propertyValue :
    RoundTrips PropertyValue.encode PropertyValue.decode PropertyValue.isFinite
  infoDictionary :
    RoundTrips InfoDictionary.encode InfoDictionary.decode InfoDictionary.isFinite
  traitsData : RoundTrips TraitsData.encode TraitsData.decode TraitsData.isFinite
  traitSet : RoundTrips (NameSet.encode : TraitSet → Json) Decoder.nameSet fun _ => true
  batchElementError :
    RoundTrips BatchElementError.encode BatchElementError.decode fun _ => true
  errorCode : NamesRoundTrip ErrorCode
  capability : NamesRoundTrip Capability
  severity : NamesRoundTrip Severity
  access : NamesRoundTrip Access
  policyAccess : NamesRoundTrip PolicyAccess
  resolveAccess : NamesRoundTrip ResolveAccess
  publishingAccess : NamesRoundTrip PublishingAccess
  relationsAccess : NamesRoundTrip RelationsAccess
  defaultEntityAccess : NamesRoundTrip DefaultEntityAccess
  entityTraitsAccess : NamesRoundTrip EntityTraitsAccess
  logFormat : NamesRoundTrip LogFormat
  loggingConfig : RoundTrips LoggingConfig.encode LoggingConfig.decode fun _ => true
  managerConfig :
    RoundTrips ManagerConfig.encode ManagerConfig.decode ManagerConfig.isFinite
  appConfig : RoundTrips AppConfig.encode AppConfig.decode AppConfig.isFinite

theorem namesRoundTrip (alpha : Type) [Enumerated alpha] : NamesRoundTrip alpha :=
  (faithful_named alpha).roundTrips

theorem dataModel_roundTrips : DataModelRoundTrips where
  propertyValue := faithful_propertyValue.roundTrips
  infoDictionary := faithful_infoDictionary.roundTrips
  traitsData := faithful_traitsData.roundTrips
  traitSet := faithful_nameSet.roundTrips
  batchElementError := faithful_batchElementError.roundTrips
  errorCode := namesRoundTrip _
  capability := namesRoundTrip _
  severity := namesRoundTrip _
  access := namesRoundTrip _
  policyAccess := namesRoundTrip _
  resolveAccess := namesRoundTrip _
  publishingAccess := namesRoundTrip _
  relationsAccess := namesRoundTrip _
  defaultEntityAccess := namesRoundTrip _
  entityTraitsAccess := namesRoundTrip _
  logFormat := namesRoundTrip _
  loggingConfig := faithful_loggingConfig.roundTrips
  managerConfig := faithful_managerConfig.roundTrips
  appConfig := faithful_appConfig.roundTrips

def lookalikes : TraitsData :=
  [("integer", .int 3), ("number", .float ⟨0x4008000000000000⟩), ("numeral", .text "3"),
    ("truth", .bool true), ("word", .text "true"), ("zero", .float (.zero false)),
    ("negativeZero", .float (.zero true))].foldl
      (fun data property => data.setProperty "lookalike" property.1 property.2) .empty

theorem dataModel_roundTrips_lookalikes :
    lookalikes.isFinite = true ∧
      TraitsData.decode (TraitsData.encode lookalikes) = .ok lookalikes := by
  have finite : lookalikes.isFinite = true := by
    decide
  exact ⟨finite, (dataModel_roundTrips.traitsData.value lookalikes finite).2⟩

end AssetExchange
