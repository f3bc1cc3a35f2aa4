import AssetExchange.Proofs.Binary64.Shortest
import AssetExchange.Proofs.Text.Numerals
import AssetExchange.Toml.Printer

/-!
# Numbers in configuration files

Integers and double-precision numbers are read back from the text in which they are written
(`readNumber_toString`, `readNumber_pointed`), whatever follows on their line.  Neither looks
like a date (`readDateTime_of_undated`), and an integer does not look like a number with a
point.
-/

namespace AssetExchange
namespace Toml

/-! ## Digits -/

section Digits

variable {digits rest : List Char}

/-- The characters are digits, and there are some. -/
structure AreDigits (digits : List Char) : Prop where
  ne_nil : digits ≠ []
  isDigit : ∀ digit ∈ digits, digit.isDigit = true

/-- Nothing that belongs to a number follows a digit. -/
def StopsDigits (rest : List Char) : Prop :=
  ∀ next ∈ rest.head?, next.isDigit = false ∧ next ≠ '_'

theorem AreDigits.append (areDigits : AreDigits digits)
    (others : ∀ digit ∈ rest, digit.isDigit = true) : AreDigits (digits ++ rest) where
  ne_nil := List.append_ne_nil_of_left_ne_nil areDigits.ne_nil rest
  isDigit := fun digit member =>
    (List.mem_append.1 member).elim (areDigits.isDigit digit) (others digit)

theorem areDigits_toDigits (number : Nat) : AreDigits (Nat.toDigits 10 number) where
  ne_nil := Nat.toDigits_ne_nil
  isDigit := fun _ member => Nat.isDigit_of_mem_toDigits (by decide) le_rfl member

theorem isDigit_of_mem_zeros {count : Nat} :
    ∀ digit ∈ List.replicate count '0', digit.isDigit = true := by
  intro digit member
  rw [List.eq_of_mem_replicate member]
  rfl

theorem digitsValue_append_zeros (digits : List Char) (count : Nat) :
    Text.digitsValue (digits ++ List.replicate count '0') =
      Text.digitsValue digits * 10 ^ count := by
  induction count with
  | zero =>
      rw [List.replicate_zero, List.append_nil, pow_zero, mul_one]
  | succ count inductionHypothesis =>
      rw [List.replicate_succ', ← List.append_assoc, Text.digitsValue, List.foldl_append]
      change 10 * Text.digitsValue (digits ++ List.replicate count '0') + 0 = _
      rw [inductionHypothesis, pow_succ]
      ring

theorem takeGroups_digits (isDigit : ∀ digit ∈ digits, digit.isDigit = true)
    (stops : StopsDigits rest) : takeGroups Char.isDigit (digits ++ rest) = (digits, rest) := by
  induction digits with
  | nil =>
      cases rest with
      | nil =>
          rfl
      | cons next others =>
          obtain ⟨other, different⟩ := stops next rfl
          rw [List.nil_append, takeGroups]
          · rw [if_neg (by rw [other]; exact Bool.false_ne_true)]
          · rintro _ _ rfl
            exact absurd rfl different
  | cons digit digits inductionHypothesis =>
      have first := isDigit digit List.mem_cons_self
      rw [List.cons_append, takeGroups]
      · rw [if_pos first,
          inductionHypothesis fun other member => isDigit other (List.mem_cons_of_mem _ member)]
      · rintro _ _ rfl
        cases first

theorem takeDecimal_digits (areDigits : AreDigits digits) (stops : StopsDigits rest) :
    takeDecimal (digits ++ rest) = (digits, rest) := by
  obtain ⟨digit, others, rfl⟩ := List.exists_cons_of_ne_nil areDigits.ne_nil
  have groups := takeGroups_digits areDigits.isDigit stops
  unfold takeDecimal takeNumeral
  rw [List.cons_append] at groups ⊢
  dsimp only
  rw [if_pos (areDigits.isDigit digit List.mem_cons_self), groups]

/-! ## Whole parts -/

/-- The characters are digits, with a zero at the front only if there is no other. -/
structure IsWhole (digits : List Char) : Prop extends AreDigits digits where
  leading : digits = ['0'] ∨ digits.head? ≠ some '0'

theorem isWhole_toDigits (number : Nat) : IsWhole (Nat.toDigits 10 number) where
  toAreDigits := areDigits_toDigits number
  leading := by
    rcases Nat.eq_zero_or_pos number with rfl | positive
    · exact .inl rfl
    · exact .inr (Text.head?_toDigits_ne positive)

theorem takeWhole_digits (isWhole : IsWhole digits) (stops : StopsDigits rest) :
    takeWhole (digits ++ rest) = (digits, rest) := by
  rcases isWhole.leading with rfl | leading
  · rfl
  · obtain ⟨digit, others, rfl⟩ := List.exists_cons_of_ne_nil isWhole.ne_nil
    have whole := takeDecimal_digits isWhole.toAreDigits stops
    rw [List.cons_append] at whole ⊢
    unfold takeWhole
    split
    · rename_i same
      obtain ⟨rfl, _⟩ := List.cons.inj same
      exact absurd rfl leading
    · exact whole

end Digits

/-! ## Dates -/

section Dates

variable {characters digits rest : List Char}

/-- Where the characters begin with digits, neither a minus sign nor a colon comes after
them. -/
def Undated (characters : List Char) : Prop :=
  ∀ digits mark rest, characters = digits ++ mark :: rest → digits ≠ [] →
    (∀ digit ∈ digits, digit.isDigit = true) → mark ≠ '-' ∧ mark ≠ ':'

theorem eq_of_readFixed {count value : Nat}
    (read : readFixed count characters = some (digits, value, rest)) :
    characters = digits ++ rest ∧ AreDigits digits := by
  unfold readFixed at read
  simp only [Option.bind_eq_bind, Option.pure_def] at read
  obtain ⟨_, _, read⟩ := Option.bind_eq_some_iff.1 read
  obtain ⟨number, known, read⟩ := Option.bind_eq_some_iff.1 read
  cases read
  obtain ⟨nonempty, all, _⟩ := (Text.digits?_eq_some_iff _ _).1 known
  exact ⟨(List.take_append_drop count characters).symm, nonempty, all⟩

theorem eq_of_readPair {low high : Nat}
    (read : readPair low high characters = some (digits, rest)) :
    characters = digits ++ rest ∧ AreDigits digits := by
  unfold readPair at read
  simp only [Option.bind_eq_bind, Option.pure_def] at read
  obtain ⟨_, fixed, read⟩ := Option.bind_eq_some_iff.1 read
  obtain ⟨_, _, read⟩ := Option.bind_eq_some_iff.1 read
  cases read
  exact eq_of_readFixed fixed

theorem eq_of_after? {expected : Char} (follows : after? expected characters = some rest) :
    characters = expected :: rest := by
  cases characters with
  | nil =>
      cases follows
  | cons character others =>
      rw [after?] at follows
      split at follows
      · rename_i same
        cases follows
        rw [same]
      · cases follows

/-- What does not go on after its first digits as a date or a time does is neither. -/
theorem readDateTime_of_undated (undated : Undated characters) :
    readDateTime characters = none := by
  have noDate : readDate characters = none := by
    unfold readDate
    simp only [Option.bind_eq_bind, Option.pure_def, Option.bind_eq_none_iff]
    rintro ⟨digits, value, rest⟩ year month follows
    obtain ⟨rfl, areDigits⟩ := eq_of_readFixed year
    have same : rest = '-' :: month := eq_of_after? follows
    subst same
    exact absurd rfl (undated digits '-' month rfl areDigits.ne_nil areDigits.isDigit).1
  have noTime : readTime characters = none := by
    unfold readTime
    simp only [Option.bind_eq_bind, Option.pure_def, Option.bind_eq_none_iff]
    rintro ⟨digits, rest⟩ hour minute follows
    obtain ⟨rfl, areDigits⟩ := eq_of_readPair hour
    have same : rest = ':' :: minute := eq_of_after? follows
    subst same
    exact absurd rfl (undated digits ':' minute rfl areDigits.ne_nil areDigits.isDigit).2
  rw [readDateTime, noDate, noTime]
  rfl

theorem undated_of_mark {first : Char} (other : first.isDigit = false) :
    Undated (first :: rest) := by
  intro digits mark after split nonempty isDigit
  obtain ⟨digit, more, rfl⟩ := List.exists_cons_of_ne_nil nonempty
  obtain ⟨rfl, _⟩ := List.cons.inj split
  rw [isDigit first List.mem_cons_self] at other
  cases other

theorem undated_of_digits {next : Char} (isDigit : ∀ digit ∈ digits, digit.isDigit = true)
    (other : next.isDigit = false) (notMinus : next ≠ '-') (notColon : next ≠ ':') :
    Undated (digits ++ next :: rest) := by
  intro digits' mark after split nonempty isDigit'
  by_cases markIsDigit : mark.isDigit = true
  · constructor
    · rintro rfl
      cases markIsDigit
    · rintro rfl
      cases markIsDigit
  · -- Both are what follows the digits at the front.
    have first : (digits ++ next :: rest).dropWhile Char.isDigit =
        (next :: rest).dropWhile Char.isDigit := List.dropWhile_append_of_pos isDigit
    have second : (digits' ++ mark :: after).dropWhile Char.isDigit =
        (mark :: after).dropWhile Char.isDigit := List.dropWhile_append_of_pos isDigit'
    rw [split, second, List.dropWhile_cons_of_neg markIsDigit,
      List.dropWhile_cons_of_neg (by rw [other]; exact Bool.false_ne_true)] at first
    obtain ⟨rfl, _⟩ := List.cons.inj first
    exact ⟨notMinus, notColon⟩

end Dates

/-! ## Signs -/

section Signs

variable {digits rest : List Char}

def signText (negative : Bool) : List Char := if negative then ['-'] else []

theorem toList_sign (negative : Bool) :
    (if negative = true then "-" else "").toList = signText negative := by
  cases negative <;> rfl

theorem takeSign_signText (negative : Bool) (areDigits : AreDigits digits) (rest : List Char) :
    Text.takeSign (signText negative ++ digits ++ rest) = (negative, digits ++ rest) := by
  obtain ⟨digit, others, rfl⟩ := List.exists_cons_of_ne_nil areDigits.ne_nil
  cases negative with
  | true =>
      rfl
  | false =>
      change Text.takeSign (digit :: (others ++ rest)) = (false, digit :: (others ++ rest))
      have isDigit := areDigits.isDigit digit List.mem_cons_self
      unfold Text.takeSign
      split
      · rename_i same
        obtain ⟨rfl, _⟩ := List.cons.inj same
        cases isDigit
      · rename_i same
        obtain ⟨rfl, _⟩ := List.cons.inj same
        cases isDigit
      · rfl

theorem undated_signText (negative : Bool) (areDigits : AreDigits digits) {next : Char}
    (other : next.isDigit = false) (notMinus : next ≠ '-') (notColon : next ≠ ':') :
    Undated (signText negative ++ digits ++ next :: rest) := by
  cases negative with
  | true =>
      exact undated_of_mark rfl
  | false =>
      exact undated_of_digits areDigits.isDigit other notMinus notColon

end Signs

/-! ## Integers -/

section Integers

variable {digits rest : List Char}

theorem toList_toString (value : Int) :
    (toString value).toList =
      signText (decide (value < 0)) ++ Nat.toDigits 10 value.natAbs := by
  cases value with
  | ofNat number =>
      change (Nat.repr number).toList = _
      rw [Nat.repr_eq_ofList_toDigits, String.toList_ofList, decide_eq_false (by simp)]
      rfl
  | negSucc number =>
      change ("-" ++ Nat.repr (number + 1)).toList = _
      rw [String.toList_append, Nat.repr_eq_ofList_toDigits,
        decide_eq_true (Int.negSucc_lt_zero number)]
      exact congrArg ('-' :: ·) String.toList_ofList

theorem stopsDigits_cons {next : Char} (other : next.isDigit = false) (different : next ≠ '_') :
    StopsDigits (next :: rest) := by
  rintro character same
  cases same
  exact ⟨other, different⟩

/-- Neither an infinity nor a pattern that is no number begins with a digit. -/
theorem readFloat_signText (negative : Bool) (areDigits : AreDigits digits) (rest : List Char) :
    readFloat (signText negative ++ digits ++ rest) =
      readDecimal (signText negative ++ digits ++ rest) := by
  unfold readFloat
  rw [takeSign_signText negative areDigits]
  obtain ⟨digit, others, rfl⟩ := List.exists_cons_of_ne_nil areDigits.ne_nil
  have isDigit := areDigits.isDigit digit List.mem_cons_self
  dsimp only
  split
  · rename_i same
    obtain ⟨rfl, _⟩ := List.cons.inj same
    cases isDigit
  · rename_i same
    obtain ⟨rfl, _⟩ := List.cons.inj same
    cases isDigit
  · rfl

/-- Digits with nothing but the end of the line after them are no number with a point. -/
theorem readFloat_digits (negative : Bool) (isWhole : IsWhole digits) (rest : List Char) :
    readFloat (signText negative ++ digits ++ '\n' :: rest) = none := by
  rw [readFloat_signText negative isWhole.toAreDigits]
  unfold readDecimal
  rw [takeSign_signText negative isWhole.toAreDigits]
  dsimp only
  rw [takeWhole_digits isWhole (stopsDigits_cons rfl (by decide))]
  simp [readFraction, readExponent]

/-- A zero has nothing after it but the end of the line. -/
theorem IsWhole.ne_base (isWhole : IsWhole digits) (negative : Bool) (rest : List Char)
    {mark : Char} {others : List Char} (different : mark ≠ '\n') :
    signText negative ++ digits ++ '\n' :: rest ≠ '0' :: mark :: others := by
  intro same
  cases negative with
  | true =>
      cases same
  | false =>
      rcases isWhole.leading with rfl | leading
      · obtain ⟨_, same⟩ := List.cons.inj same
        exact different (List.cons.inj same).1.symm
      · obtain ⟨digit, more, rfl⟩ := List.exists_cons_of_ne_nil isWhole.ne_nil
        obtain ⟨rfl, _⟩ := List.cons.inj same
        exact leading rfl

theorem readInteger_digits (negative : Bool) (isWhole : IsWhole digits) {value : Int}
    (same : value =
      if negative = true then -(Text.digitsValue digits : Int) else Text.digitsValue digits)
    (fits : IsSignedWord value) (rest : List Char) :
    readInteger (signText negative ++ digits ++ '\n' :: rest) = some (value, '\n' :: rest) := by
  have stops : StopsDigits ('\n' :: rest) := stopsDigits_cons rfl (by decide)
  have noBase : ∀ (mark : Char) (others : List Char), mark ≠ '\n' →
      signText negative ++ digits ++ '\n' :: rest ≠ '0' :: mark :: others :=
    fun mark others different => isWhole.ne_base negative rest different
  unfold readInteger
  split
  · rename_i base
    exact absurd base (noBase _ _ (by decide))
  · rename_i base
    exact absurd base (noBase _ _ (by decide))
  · rename_i base
    exact absurd base (noBase _ _ (by decide))
  · rw [takeSign_signText negative isWhole.toAreDigits]
    dsimp only
    rw [takeWhole_digits isWhole stops]
    dsimp only
    rw [← same]
    simp [isWhole.ne_nil, guard, if_pos fits]

/-- An integer is read back from its text. -/
theorem readNumber_toString {value : Int} (fits : IsSignedWord value) (rest : List Char) :
    readNumber ((toString value).toList ++ '\n' :: rest) = some (.signed value, '\n' :: rest) := by
  have isWhole := isWhole_toDigits value.natAbs
  have same : value = if decide (value < 0) = true then
      -(Text.digitsValue (Nat.toDigits 10 value.natAbs) : Int)
    else Text.digitsValue (Nat.toDigits 10 value.natAbs) := by
    rw [Text.digitsValue_toDigits]
    split
    · rename_i negative
      have negative := of_decide_eq_true negative
      omega
    · rename_i nonnegative
      have nonnegative : ¬value < 0 := fun negative => nonnegative (decide_eq_true negative)
      omega
  rw [toList_toString]
  unfold readNumber
  rw [readDateTime_of_undated (undated_signText _ isWhole.toAreDigits rfl (by decide) (by decide)),
    readFloat_digits _ isWhole, readInteger_digits _ isWhole same fits]
  rfl

end Integers

/-! ## Double-precision numbers -/

section Floats

open Binary64

variable {whole fraction rest : List Char}

theorem readDecimal_text (negative : Bool) (isWhole : IsWhole whole)
    (areDigits : AreDigits fraction) {value : Binary64}
    (same : ofDecimal negative (Text.digitsValue (whole ++ fraction))
      (-(fraction.length : Int)) = value)
    (finite : value ≠ .infinity false) (rest : List Char) :
    readDecimal (signText negative ++ whole ++ '.' :: (fraction ++ '\n' :: rest)) =
      some (value, '\n' :: rest) := by
  unfold readDecimal
  rw [takeSign_signText negative isWhole.toAreDigits]
  dsimp only
  rw [takeWhole_digits isWhole (stopsDigits_cons rfl (by decide))]
  dsimp only
  have read : readFraction ('.' :: (fraction ++ '\n' :: rest)) =
      some (fraction, 0, '\n' :: rest) := by
    have taken : takeDecimal (fraction ++ '\n' :: rest) = (fraction, '\n' :: rest) :=
      takeDecimal_digits areDigits (stopsDigits_cons rfl (by decide))
    simp [readFraction, taken, areDigits.ne_nil]
  rw [read]
  simp [isWhole.ne_nil, guard, same, finite]

/-- The digits before and after the point of a decimal that is written with all its places. -/
structure PointedParts (text whole fraction : List Char) (value : ℚ) : Prop where
  split : text = whole ++ '.' :: fraction
  isWhole : IsWhole whole
  areDigits : AreDigits fraction
  value_eq : Text.digitsValue (whole ++ fraction) * (10 : ℚ) ^ (-(fraction.length : Int)) = value

theorem exists_parts_of_integer (digits places : Nat) :
    ∃ whole fraction, PointedParts
      ((⟨digits, places⟩ : Decimal).positional ++ ".0").toList whole fraction
      (⟨digits, places⟩ : Decimal).value := by
  unfold Decimal.positional
  dsimp only
  rw [if_pos (Int.natCast_nonneg places), Int.toNat_natCast]
  have zero : AreDigits ['0'] := areDigits_toDigits 0
  by_cases none : digits = 0
  · subst none
    refine ⟨['0'], ['0'], by rw [if_pos rfl]; rfl, isWhole_toDigits 0, zero, ?_⟩
    rw [Decimal.value, Nat.cast_zero, zero_mul]
    exact mul_eq_zero_of_left Nat.cast_zero _
  · rw [if_neg none]
    have head := Text.head?_toDigits_ne (Nat.pos_of_ne_zero none)
    refine ⟨Nat.toDigits 10 digits ++ List.replicate places '0', ['0'], ?_, ?_, zero, ?_⟩
    · rw [String.toList_append, String.toList_append, digitText, zeros, String.toList_ofList,
        String.toList_ofList]
      rfl
    · refine ⟨(areDigits_toDigits digits).append isDigit_of_mem_zeros, .inr ?_⟩
      rw [List.head?_append_of_ne_nil _ Nat.toDigits_ne_nil]
      exact head
    · rw [List.append_assoc, ← List.replicate_succ', digitsValue_append_zeros,
        Text.digitsValue_toDigits, Decimal.value]
      push_cast
      rw [List.length_singleton, Nat.cast_one, zpow_neg_one, zpow_natCast, pow_succ]
      field_simp

/-- Digits with as many zeros in front of them as one needs to stand before the point. -/
def paddedDigits (digits places : Nat) : List Char :=
  List.replicate (places + 1 - (Nat.toDigits 10 digits).length) '0' ++ Nat.toDigits 10 digits

theorem isDigit_of_mem_paddedDigits (digits places : Nat) :
    ∀ digit ∈ paddedDigits digits places, digit.isDigit = true := by
  intro digit member
  exact (List.mem_append.1 member).elim (isDigit_of_mem_zeros digit)
    ((areDigits_toDigits digits).isDigit digit)

theorem lt_length_paddedDigits (digits places : Nat) :
    places < (paddedDigits digits places).length := by
  rw [paddedDigits, List.length_append, List.length_replicate]
  omega

theorem digitsValue_paddedDigits (digits places : Nat) :
    Text.digitsValue (paddedDigits digits places) = digits := by
  rw [paddedDigits, Text.digitsValue_zeros, Text.digitsValue_toDigits]

/-- Zeros stand in front only if the whole part is nothing else. -/
theorem leading_paddedDigits (digits : Nat) {places : Nat} (positive : 0 < places) :
    (paddedDigits digits places).take ((paddedDigits digits places).length - places) = ['0'] ∨
      (paddedDigits digits places).head? ≠ some '0' := by
  by_cases short : (Nat.toDigits 10 digits).length ≤ places
  · left
    have length : (paddedDigits digits places).length = places + 1 := by
      rw [paddedDigits, List.length_append, List.length_replicate]
      omega
    have more : places + 1 - (Nat.toDigits 10 digits).length =
        (places - (Nat.toDigits 10 digits).length) + 1 := by
      omega
    rw [length, Nat.add_sub_cancel_left, paddedDigits, more]
    rfl
  · right
    have none : places + 1 - (Nat.toDigits 10 digits).length = 0 := by
      omega
    have nonzero : digits ≠ 0 := by
      rintro rfl
      exact short positive
    rw [paddedDigits, none]
    exact Text.head?_toDigits_ne (Nat.pos_of_ne_zero nonzero)

/-- Digits of which some come after a point. -/
theorem pointedParts_split {characters : List Char} {places : Nat} (positive : 0 < places)
    (isDigit : ∀ digit ∈ characters, digit.isDigit = true) (enough : places < characters.length)
    (leading : characters.take (characters.length - places) = ['0'] ∨
      characters.head? ≠ some '0') :
    PointedParts
      (characters.take (characters.length - places) ++
        '.' :: characters.drop (characters.length - places))
      (characters.take (characters.length - places))
      (characters.drop (characters.length - places))
      (Text.digitsValue characters * (10 : ℚ) ^ (-(places : Int))) := by
  constructor
  case split =>
    rfl
  case isWhole =>
    refine ⟨⟨?_, fun digit member => isDigit digit (List.mem_of_mem_take member)⟩, ?_⟩
    · exact List.ne_nil_of_length_pos (by rw [List.length_take]; omega)
    · refine leading.imp id fun other => ?_
      rw [List.head?_take, if_neg (by omega)]
      exact other
  case areDigits =>
    refine ⟨?_, fun digit member => isDigit digit (List.mem_of_mem_drop member)⟩
    exact List.ne_nil_of_length_pos (by rw [List.length_drop]; omega)
  case value_eq =>
    rw [List.take_append_drop, List.length_drop, Nat.sub_sub_self enough.le]

theorem exists_parts_of_fraction (digits : Nat) {places : Nat} (positive : 0 < places) :
    ∃ whole fraction, PointedParts
      ((⟨digits, -places⟩ : Decimal).positional).toList whole fraction
      (⟨digits, -places⟩ : Decimal).value := by
  have parts := pointedParts_split positive (isDigit_of_mem_paddedDigits digits places)
    (lt_length_paddedDigits digits places) (leading_paddedDigits digits positive)
  have text : (digitText digits).toList = Nat.toDigits 10 digits := String.toList_ofList
  have length : (digitText digits).length = (Nat.toDigits 10 digits).length :=
    String.length_ofList
  have padding : ∀ count, (zeros count).toList = List.replicate count '0' :=
    fun count => String.toList_ofList
  rw [digitsValue_paddedDigits] at parts
  refine ⟨_, _, ?_, parts.isWhole, parts.areDigits, parts.value_eq⟩
  unfold Decimal.positional
  dsimp only
  rw [if_neg (by omega), neg_neg, Int.toNat_natCast]
  simp only [String.toList_append, String.toList_ofList, length, text, padding]
  rw [List.append_assoc]
  rfl

theorem exists_parts (decimal : Decimal) :
    ∃ whole fraction, PointedParts
      (decimal.positional ++ if 0 ≤ decimal.exponent then ".0" else "").toList whole fraction
      decimal.value := by
  obtain ⟨digits, exponent⟩ := decimal
  rcases Int.lt_or_le exponent 0 with negative | nonnegative
  · obtain ⟨places, rfl⟩ : ∃ places : Nat, exponent = -places :=
      ⟨(-exponent).toNat, by omega⟩
    rw [if_neg (show ¬(0 : Int) ≤ -places by omega), String.append_empty]
    exact exists_parts_of_fraction digits (by omega)
  · obtain ⟨places, rfl⟩ := Int.eq_ofNat_of_zero_le nonnegative
    rw [if_pos nonnegative]
    exact exists_parts_of_integer digits places

theorem infinity_isNegative {number : Binary64} (infinite : number.isInfinite = true) :
    .infinity number.isNegative = number := by
  have same : number.magnitudeBits = infinityBits := beq_iff_eq.1 infinite
  rw [infinity, ← same, ofMagnitude_magnitudeBits]

theorem isFinite_of_not {number : Binary64} (isNumber : number.isNaN = false)
    (notInfinite : number.isInfinite = false) : number.isFinite = true := by
  have atMost : ¬number.magnitudeBits > infinityBits := of_decide_eq_false isNumber
  have different : number.magnitudeBits ≠ infinityBits := beq_eq_false_iff_ne.1 notInfinite
  exact decide_eq_true (by omega)

theorem ne_infinity {number : Binary64} (finite : number.isFinite = true) (negative : Bool) :
    number ≠ .infinity negative := by
  rintro rfl
  revert finite
  cases negative <;> decide

/-- A number other than a pattern that is none is read back from its text. -/
theorem readNumber_pointed {number : Binary64} (isNumber : number.isNaN = false)
    (rest : List Char) :
    readNumber (number.pointed.toList ++ '\n' :: rest) = some (.float number, '\n' :: rest) := by
  unfold pointed writeWith
  rw [isNumber, if_neg Bool.false_ne_true, String.toList_append, toList_sign]
  cases infinite : number.isInfinite with
  | true =>
      rw [if_pos rfl]
      have read : ∀ negative, readNumber (signText negative ++ "inf".toList ++ '\n' :: rest) =
          some (.float (.infinity negative), '\n' :: rest) := by
        intro negative
        have undated : Undated (signText negative ++ "inf".toList ++ '\n' :: rest) := by
          cases negative with
          | true =>
              exact undated_of_mark rfl
          | false =>
              exact undated_of_mark rfl
        rw [readNumber, readDateTime_of_undated undated]
        cases negative <;> rfl
      rw [read, infinity_isNegative infinite]
  | false =>
      have finite := isFinite_of_not isNumber infinite
      rw [if_neg Bool.false_ne_true]
      obtain ⟨whole, fraction, parts⟩ := exists_parts number.shortest
      have undated : Undated
          (signText number.isNegative ++ whole ++ '.' :: (fraction ++ '\n' :: rest)) :=
        undated_signText _ parts.isWhole.toAreDigits rfl (by decide) (by decide)
      have read := readDecimal_text number.isNegative parts.isWhole parts.areDigits
        (ofDecimal_of_shortest finite parts.value_eq) (ne_infinity finite false) rest
      have split : signText number.isNegative ++ (whole ++ '.' :: fraction) ++ '\n' :: rest =
          signText number.isNegative ++ whole ++ '.' :: (fraction ++ '\n' :: rest) := by
        simp only [List.append_assoc, List.cons_append]
      rw [parts.split, split, readNumber, readDateTime_of_undated undated,
        readFloat_signText _ parts.isWhole.toAreDigits, read]

end Floats

end Toml
end AssetExchange
