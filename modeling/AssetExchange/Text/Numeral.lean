/-!
# Numerals

Readers for the decimal numerals in settings, tokens and environment values. An
unsigned numeral is an optional plus sign and one or more ASCII digits whose value
is below a bound; leading zeros are allowed and nothing may stand around it. A
signed numeral may begin with a minus sign instead.
-/

namespace AssetExchange
namespace Text

def digitsValue (digits : List Char) : Nat :=
  digits.foldl (fun value digit => 10 * value + (digit.toNat - '0'.toNat)) 0

/-- The value of one or more ASCII digits. -/
def digits? (characters : List Char) : Option Nat :=
  if characters ≠ [] ∧ characters.all Char.isDigit = true then
    some (digitsValue characters)
  else none

/-- The characters after one optional plus sign. -/
def afterPlus (characters : List Char) : List Char :=
  match characters with
  | '+' :: rest => rest
  | _ => characters

/-- Reads an unsigned numeral whose value is below `bound`. -/
def unsigned? (bound : Nat) (characters : List Char) : Option Nat :=
  (digits? (afterPlus characters)).filter (· < bound)

/-- Reads a signed numeral of at least `-bound` and below `bound`. -/
def signed? (bound : Nat) (characters : List Char) : Option Int :=
  match characters with
  | '-' :: rest => ((digits? rest).filter (· ≤ bound)).map fun value => -(value : Int)
  | _ => (unsigned? bound characters).map Int.ofNat

def hexDigit? (character : Char) : Option Nat :=
  if character.isDigit then some (character.toNat - '0'.toNat)
  else if 'a' ≤ character ∧ character ≤ 'f' then
    some (character.toNat - 'a'.toNat + 10)
  else if 'A' ≤ character ∧ character ≤ 'F' then
    some (character.toNat - 'A'.toNat + 10)
  else none

def digitIn? (base : Nat) (character : Char) : Option Nat :=
  (hexDigit? character).filter (· < base)

/-- The value of a string of digits in a base of at most sixteen. -/
def valueIn? (base : Nat) (characters : List Char) : Option Nat :=
  characters.foldlM (fun value character =>
    (digitIn? base character).map (base * value + ·)) 0

def decimalDigits (value : Nat) : List Char :=
  Nat.toDigits 10 value

def decimal (value : Nat) : String :=
  String.ofList (decimalDigits value)

theorem unsigned?_eq_some_iff (bound : Nat) (characters : List Char)
    (value : Nat) :
    unsigned? bound characters = some value ↔
      digits? (afterPlus characters) = some value ∧ value < bound := by
  simp [unsigned?, Option.filter_eq_some_iff]

theorem digits?_eq_some_iff (characters : List Char) (value : Nat) :
    digits? characters = some value ↔
      characters ≠ [] ∧ (∀ character ∈ characters, character.isDigit = true) ∧
        digitsValue characters = value := by
  simp [digits?, List.all_eq_true, and_assoc]

end Text
end AssetExchange
