import AssetExchange.Text.Numeral
import Mathlib.Data.List.Basic
import Mathlib.Data.List.Induction
import Mathlib.Data.Nat.Digits.Defs
import Mathlib.Data.Set.List

/-!
# Numerals as lists of digits

A decimal numeral is a list of digits, `spell` writes it down and `numberOf` is what it
stands for.  The readers of numerals accept just what is spelled, and read it as that
number (`digits?_eq_some_iff_spell`, `unsigned?_eq_some_iff_spell`).  A number is written
without zeros in front (`exists_spell_decimalDigits`), and that is the only way to write it
so (`Unpadded.eq_of_numberOf_eq`).
-/

namespace AssetExchange
namespace Text

/-! ## Digits and what they stand for -/

def spell (digits : List (Fin 10)) : List Char :=
  digits.map fun digit : Fin 10 => Nat.digitChar digit

/-- The number that a numeral stands for: its last digit counts once, the one before it
ten times, and so on. -/
def numberOf (digits : List (Fin 10)) : Nat :=
  Nat.ofDigits 10 (digits.reverse.map Fin.val)

/-- There are digits, and the first one is a zero only if it is the only one. -/
structure Unpadded (digits : List (Fin 10)) : Prop where
  ne_nil : digits ≠ []
  leading : digits.head? = some 0 → digits = [0]

theorem isDigit_of_mem_spell {digits : List (Fin 10)} {character : Char}
    (member : character ∈ spell digits) : character.isDigit = true := by
  obtain ⟨digit, _, rfl⟩ := List.mem_map.1 member
  have each : ∀ digit : Fin 10, (Nat.digitChar digit).isDigit = true := by
    decide
  exact each digit

theorem exists_digitChar {character : Char} (isDigit : character.isDigit = true) :
    ∃ digit : Fin 10, Nat.digitChar digit = character := by
  rw [Char.isDigit_iff_toNat] at isDigit
  have enumerated : ∀ code ≤ '9'.toNat, '0'.toNat ≤ code →
      ∃ digit : Fin 10, Nat.digitChar digit = Char.ofNat code := by
    decide
  obtain ⟨digit, same⟩ := enumerated character.toNat isDigit.2 isDigit.1
  exact ⟨digit, same.trans (Char.ofNat_toNat character)⟩

theorem exists_spell {characters : List Char}
    (isDigit : ∀ character ∈ characters, character.isDigit = true) :
    ∃ digits, spell digits = characters := by
  have each : ∀ character ∈ characters,
      character ∈ Set.range fun digit : Fin 10 => Nat.digitChar digit :=
    fun character member => exists_digitChar (isDigit character member)
  have spelled : characters ∈ Set.range
      (List.map fun digit : Fin 10 => Nat.digitChar digit) := by
    rw [Set.range_list_map]
    exact each
  exact spelled

theorem spell_eq_nil_iff {digits : List (Fin 10)} : spell digits = [] ↔ digits = [] :=
  List.map_eq_nil_iff

theorem spell_injective : Function.Injective spell := by
  apply List.map_injective_iff.2
  have apart : ∀ first second : Fin 10,
      Nat.digitChar first = Nat.digitChar second → first = second := by
    decide
  exact fun first second => apart first second

/-! ## Values -/

/-- A numeral that is read from the left has the value that its places give it. -/
theorem digitsValue_spell (digits : List (Fin 10)) :
    digitsValue (spell digits) = numberOf digits := by
  induction digits using List.reverseRecOn with
  | nil =>
      rfl
  | append_singleton digits digit inductionHypothesis =>
      have last : ∀ digit : Fin 10,
          (Nat.digitChar digit).toNat - '0'.toNat = (digit : Nat) := by
        decide
      have value : digitsValue (spell (digits ++ [digit])) =
          10 * digitsValue (spell digits) + digit := by
        rw [spell, List.map_append, digitsValue, List.foldl_append, ← last digit]
        rfl
      rw [value, inductionHypothesis, numberOf, numberOf, List.reverse_concat, List.map_cons,
        Nat.ofDigits_cons, Nat.add_comm]

theorem digitsValue_toDigits (number : Nat) :
    digitsValue (Nat.toDigits 10 number) = number :=
  Nat.ofDigitChars_ten_toDigits

theorem digitsValue_zeros (count : Nat) (digits : List Char) :
    digitsValue (List.replicate count '0' ++ digits) = digitsValue digits := by
  induction count with
  | zero =>
      rfl
  | succ count inductionHypothesis =>
      exact inductionHypothesis

/-! ## Reading -/

theorem digits?_eq_some_iff_spell (characters : List Char) (number : Nat) :
    digits? characters = some number ↔
      ∃ digits, digits ≠ [] ∧ characters = spell digits ∧ numberOf digits = number := by
  rw [digits?_eq_some_iff]
  constructor
  · rintro ⟨nonempty, isDigit, value⟩
    obtain ⟨digits, rfl⟩ := exists_spell isDigit
    rw [digitsValue_spell] at value
    exact ⟨digits, mt spell_eq_nil_iff.2 nonempty, rfl, value⟩
  · rintro ⟨digits, nonempty, rfl, value⟩
    rw [digitsValue_spell]
    exact ⟨mt spell_eq_nil_iff.1 nonempty, fun _ => isDigit_of_mem_spell, value⟩

/-- Digits do not begin with a sign. -/
theorem afterPlus_spell (digits : List (Fin 10)) : afterPlus (spell digits) = spell digits := by
  unfold afterPlus
  split
  · rename_i rest same
    have member : '+' ∈ spell digits := same ▸ List.mem_cons_self
    cases isDigit_of_mem_spell member
  · rfl

theorem eq_afterPlus (characters : List Char) :
    ∃ sign, (sign = [] ∨ sign = ['+']) ∧ characters = sign ++ afterPlus characters := by
  unfold afterPlus
  split
  · exact ⟨['+'], .inr rfl, rfl⟩
  · exact ⟨[], .inl rfl, rfl⟩

theorem afterPlus_sign_spell {sign : List Char} (optional : sign = [] ∨ sign = ['+'])
    (digits : List (Fin 10)) : afterPlus (sign ++ spell digits) = spell digits := by
  rcases optional with rfl | rfl
  · exact afterPlus_spell digits
  · rfl

/-- An unsigned numeral is one optional plus sign and digits. -/
theorem unsigned?_eq_some_iff_spell (bound : Nat) (characters : List Char) (number : Nat) :
    unsigned? bound characters = some number ↔
      ∃ sign digits, (sign = [] ∨ sign = ['+']) ∧ digits ≠ [] ∧
        characters = sign ++ spell digits ∧ numberOf digits = number ∧ number < bound := by
  rw [unsigned?_eq_some_iff, digits?_eq_some_iff_spell]
  constructor
  · rintro ⟨⟨digits, nonempty, spelled, value⟩, fits⟩
    obtain ⟨sign, optional, same⟩ := eq_afterPlus characters
    rw [spelled] at same
    exact ⟨sign, digits, optional, nonempty, same, value, fits⟩
  · rintro ⟨sign, digits, optional, nonempty, rfl, value, fits⟩
    exact ⟨⟨digits, nonempty, afterPlus_sign_spell optional digits, value⟩, fits⟩

/-! ## Writing -/

theorem head?_toDigits_ne {number : Nat} (positive : 0 < number) :
    (Nat.toDigits 10 number).head? ≠ some '0' := by
  -- The first digit is that of the number without its last one.
  induction number using Nat.strong_induction_on with
  | _ number inductionHypothesis =>
      rw [Nat.toDigits_eq_if (by decide)]
      split
      · rename_i single
        have enumerated : ∀ digit < 10, 0 < digit → [Nat.digitChar digit].head? ≠ some '0' := by
          decide
        exact enumerated number single positive
      · rename_i more
        rw [List.head?_append_of_ne_nil _ Nat.toDigits_ne_nil]
        exact inductionHypothesis (number / 10) (by omega) (by omega)

/-- A number is written by its digits, without zeros in front. -/
theorem exists_spell_decimalDigits (number : Nat) :
    ∃ digits, decimalDigits number = spell digits ∧ Unpadded digits ∧
      numberOf digits = number := by
  have isDigit : ∀ character ∈ decimalDigits number, character.isDigit = true :=
    fun _ member => Nat.isDigit_of_mem_toDigits (by decide) le_rfl member
  obtain ⟨digits, spelled⟩ := exists_spell isDigit
  refine ⟨digits, spelled.symm, ⟨?_, ?_⟩, ?_⟩
  · rintro rfl
    exact Nat.toDigits_ne_nil spelled.symm
  · intro zeroFirst
    rcases Nat.eq_zero_or_pos number with rfl | positive
    · exact spell_injective spelled
    · have leading : (decimalDigits number).head? = some '0' := by
        rw [← spelled, spell, List.head?_map, zeroFirst]
        rfl
      exact absurd leading (head?_toDigits_ne positive)
  · rw [← digitsValue_spell, spelled]
    exact digitsValue_toDigits number

theorem Unpadded.digits_numberOf {digits : List (Fin 10)} (unpadded : Unpadded digits)
    (nonzero : digits ≠ [0]) :
    Nat.digits 10 (numberOf digits) = digits.reverse.map Fin.val := by
  apply Nat.digits_ofDigits 10 (by decide)
  · intro place member
    obtain ⟨digit, _, rfl⟩ := List.mem_map.1 member
    exact digit.isLt
  · intro nonempty
    obtain ⟨first, rest, rfl⟩ := List.exists_cons_of_ne_nil unpadded.ne_nil
    have different : first ≠ 0 := by
      rintro rfl
      exact nonzero (unpadded.leading rfl)
    simpa using different

/-- There is one way to write a number without zeros in front. -/
theorem Unpadded.eq_of_numberOf_eq {first second : List (Fin 10)} (unpadded : Unpadded first)
    (other : Unpadded second) (same : numberOf first = numberOf second) : first = second := by
  have positive : ∀ {digits}, Unpadded digits → digits ≠ [0] → numberOf digits ≠ 0 := by
    intro digits unpadded nonzero none
    have empty := unpadded.digits_numberOf nonzero
    rw [none, Nat.digits_zero, eq_comm, List.map_eq_nil_iff, List.reverse_eq_nil_iff] at empty
    exact unpadded.ne_nil empty
  by_cases zero : first = [0]
  · subst zero
    by_contra different
    exact positive other (Ne.symm different) same.symm
  · have nonzero : second ≠ [0] := by
      rintro rfl
      exact positive unpadded zero same
    have reversed : first.reverse.map Fin.val = second.reverse.map Fin.val := by
      rw [← unpadded.digits_numberOf zero, ← other.digits_numberOf nonzero, same]
    exact List.reverse_injective (List.map_injective_iff.2 (fun _ _ => Fin.ext) reversed)

end Text
end AssetExchange
