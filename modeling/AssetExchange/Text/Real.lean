import AssetExchange.Binary64.Basic
import AssetExchange.Text.Numeral

/-!
# Numerals with a fraction

Reading the decimal numerals of double-precision numbers. `takeExponent` reads the
part after the letter of an exponent; `real?` reads a whole text that is a numeral:
an optional sign, digits with a point that may stand at either end, and an optional
exponent.
-/

namespace AssetExchange
namespace Text

/-- Digits at the front, and what follows them. -/
def takeDigits (characters : List Char) : List Char × List Char :=
  (characters.takeWhile Char.isDigit, characters.dropWhile Char.isDigit)

/-- A sign that may stand at the front, as whether it is a minus sign, and what
follows it. -/
def takeSign (characters : List Char) : Bool × List Char :=
  match characters with
  | '-' :: rest => (true, rest)
  | '+' :: rest => (false, rest)
  | _ => (false, characters)

/-- The value of an exponent after its letter: an optional sign and one or more
digits, which `split` takes off the front. -/
def takeExponentWith (split : List Char → List Char × List Char)
    (characters : List Char) : Option (Int × List Char) :=
  let (negative, unsigned) := takeSign characters
  let (digits, rest) := split unsigned
  if digits.isEmpty then none
  else
    let value : Int := digitsValue digits
    some (if negative then -value else value, rest)

def takeExponent (characters : List Char) : Option (Int × List Char) :=
  takeExponentWith takeDigits characters

/-- The exponent that ends a numeral: none at all, or a letter and its value. -/
def endExponent? : List Char → Option Int
  | [] => some 0
  | letter :: rest =>
      if letter = 'e' ∨ letter = 'E' then
        match takeExponent rest with
        | some (exponent, []) => some exponent
        | _ => none
      else none

/-- Reads a text that is a numeral with a point. -/
def real? (characters : List Char) : Option Binary64 :=
  let (negative, unsigned) := takeSign characters
  let (whole, afterWhole) := takeDigits unsigned
  match afterWhole with
  | '.' :: rest =>
      let (fraction, afterFraction) := takeDigits rest
      if whole.isEmpty && fraction.isEmpty then none
      else (endExponent? afterFraction).map fun exponent =>
        .ofDecimal negative (digitsValue (whole ++ fraction))
          (exponent - (fraction.length : Int))
  | _ => none

end Text
end AssetExchange
