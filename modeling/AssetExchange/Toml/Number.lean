import AssetExchange.Text.Real
import AssetExchange.Word

/-!
# Configuration files: numbers

Integers of 64 bits in four bases, and double-precision numbers. Single underscores may
stand between digits; a decimal integer has no leading zeros; a number whose value is
beyond the range is refused.
-/

namespace AssetExchange
namespace Toml

/-- Digits of which any two may have an underscore between them, and what follows. The
underscores are left out. -/
def takeGroups (isDigit : Char → Bool) : List Char → List Char × List Char
  | '_' :: digit :: rest =>
      if isDigit digit then
        let (digits, after) := takeGroups isDigit rest
        (digit :: digits, after)
      else ([], '_' :: digit :: rest)
  | digit :: rest =>
      if isDigit digit then
        let (digits, after) := takeGroups isDigit rest
        (digit :: digits, after)
      else ([], digit :: rest)
  | [] => ([], [])

/-- One or more digits with underscores between them; none when the first character is
no digit. -/
def takeNumeral (isDigit : Char → Bool) (characters : List Char) :
    List Char × List Char :=
  match characters with
  | first :: _ => if isDigit first then takeGroups isDigit characters else ([], characters)
  | [] => ([], [])

/-- Digits that may begin with zeros. -/
def takeDecimal (characters : List Char) : List Char × List Char :=
  takeNumeral Char.isDigit characters

/-- The whole part of a decimal number: a single zero, or digits that do not begin with
one. -/
def takeWhole (characters : List Char) : List Char × List Char :=
  match characters with
  | '0' :: rest => (['0'], rest)
  | _ => takeDecimal characters

/-- Reads an integer in a base, given what follows the sign of the base. -/
def readIn (base : Nat) (characters : List Char) : Option (Int × List Char) := do
  let (digits, rest) := takeNumeral (fun digit => (Text.digitIn? base digit).isSome) characters
  guard (!digits.isEmpty)
  let value ← Text.valueIn? base digits
  guard (value < signPlace)
  return (value, rest)

def readInteger (characters : List Char) : Option (Int × List Char) :=
  match characters with
  | '0' :: 'x' :: rest => readIn 16 rest
  | '0' :: 'o' :: rest => readIn 8 rest
  | '0' :: 'b' :: rest => readIn 2 rest
  | _ => do
      let (negative, unsigned) := Text.takeSign characters
      let (digits, rest) := takeWhole unsigned
      guard (!digits.isEmpty)
      let magnitude : Int := Text.digitsValue digits
      let value := if negative then -magnitude else magnitude
      guard (IsSignedWord value)
      return (value, rest)

/-- The exponent of a number: none, or a letter and its value. -/
def readExponent (characters : List Char) : Option (Int × List Char) :=
  match characters with
  | 'e' :: rest => Text.takeExponentWith takeDecimal rest
  | 'E' :: rest => Text.takeExponentWith takeDecimal rest
  | _ => none

/-- The digits after a point, the exponent, and what follows; one of the two must be
there. -/
def readFraction (characters : List Char) : Option (List Char × Int × List Char) :=
  match characters with
  | '.' :: rest =>
      let (digits, after) := takeDecimal rest
      if digits.isEmpty then none
      else
        match after with
        | 'e' :: _ | 'E' :: _ =>
            (readExponent after).map fun (exponent, last) => (digits, exponent, last)
        | _ => some (digits, 0, after)
  | _ => (readExponent characters).map fun (exponent, last) => ([], exponent, last)

def readDecimal (characters : List Char) : Option (Binary64 × List Char) := do
  let (negative, unsigned) := Text.takeSign characters
  let (whole, afterWhole) := takeWhole unsigned
  guard (!whole.isEmpty)
  let (fraction, exponent, rest) ← readFraction afterWhole
  let value := Binary64.ofDecimal negative (Text.digitsValue (whole ++ fraction))
    (exponent - (fraction.length : Int))
  guard (value ≠ .infinity false)
  return (value, rest)

def readFloat (characters : List Char) : Option (Binary64 × List Char) :=
  let (negative, unsigned) := Text.takeSign characters
  match unsigned with
  | 'i' :: 'n' :: 'f' :: rest => some (.infinity negative, rest)
  | 'n' :: 'a' :: 'n' :: rest => some (.notANumber, rest)
  | _ => readDecimal characters

end Toml
end AssetExchange
