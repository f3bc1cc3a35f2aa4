import AssetExchange.Binary64.Basic

/-!
# Decimal text of double-precision numbers

`shortest` selects the decimal with the fewest digits among those that round to
a given number, and of these the one nearest to it. It works by exact integer
arithmetic on the pattern: the reals that round to the number form an interval,
and for one digit, two digits, … the two neighbours of the number on the decimal
grid of that many digits are tested against it.

Two layouts write the digits: `positional` spells every place out, and
`general` switches to an exponent outside a middle range.
-/

namespace AssetExchange
namespace Binary64

/-- The decimal number `digits * 10 ^ exponent`. -/
structure Decimal where
  digits : Nat
  /-- The power of ten of the last digit. -/
  exponent : Int
deriving DecidableEq

/-! ## Selecting digits -/

/-- The reals that round to a finite positive number, with the number itself, as
multiples of one common unit fraction `1 / denominator`. -/
structure RoundingInterval where
  lower : Nat
  value : Nat
  upper : Nat
  /-- The unit is one over this. -/
  denominator : Nat
  /-- Whether the ends round to the number, too. -/
  closed : Bool

/-- The rounding interval of a number. Just above a power of two the lower half
is only half as wide. Ties go to the even pattern. -/
def roundingInterval (number : Binary64) : RoundingInterval :=
  let significand := number.significand
  let lowerGap := if number.fractionBits = 0 ∧ 1 < number.exponentBits then 1 else 2
  let up := Nat.pow 2 number.scale.toNat
  ⟨(4 * significand - lowerGap) * up, 4 * significand * up,
    (4 * significand + 2) * up, 4 * Nat.pow 2 (-number.scale).toNat,
    significand % 2 == 0⟩

def RoundingInterval.holds (interval : RoundingInterval) (decimal : Decimal) : Bool :=
  let point := decimal.digits * Nat.pow 10 decimal.exponent.toNat * interval.denominator
  let unit := Nat.pow 10 (-decimal.exponent).toNat
  if interval.closed then
    interval.lower * unit ≤ point && point ≤ interval.upper * unit
  else interval.lower * unit < point && point < interval.upper * unit

/-- Twice the distance from `digits * 10 ^ exponent` down to the number, in units
of the grid, compared with one: whether the lower neighbour is at least as near
as the upper one. -/
def RoundingInterval.nearerBelow (interval : RoundingInterval) (decimal : Decimal) : Bool :=
  let place := Nat.pow 10 decimal.exponent.toNat * interval.denominator
  let unit := Nat.pow 10 (-decimal.exponent).toNat
  2 * (interval.value * unit - decimal.digits * place) ≤ place

/-- The power of ten of the leading digit of `numerator / denominator`. -/
def leadingPower (numerator denominator : Nat) : Int :=
  if denominator ≤ numerator then
    ((Nat.toDigits 10 (numerator / denominator)).length : Int) - 1
  else
    let ceiling := (denominator + numerator - 1) / numerator
    let places := (Nat.toDigits 10 (ceiling - 1)).length
    (-places : Int)

/-- The neighbour of the number, on the grid of multiples of `10 ^ exponent`, that
lies in its interval; of two the nearer one. -/
def RoundingInterval.onGrid? (interval : RoundingInterval) (exponent : Int) :
    Option Decimal :=
  let below : Decimal :=
    ⟨interval.value * Nat.pow 10 (-exponent).toNat /
      (Nat.pow 10 exponent.toNat * interval.denominator), exponent⟩
  let above : Decimal := ⟨below.digits + 1, exponent⟩
  match interval.holds below, interval.holds above with
  | true, true => some (if interval.nearerBelow below then below else above)
  | true, false => some below
  | false, true => some above
  | false, false => none

/-- Drops zeros at the end; the value stays. -/
def Decimal.trimmed : Nat → Decimal → Decimal
  | 0, decimal => decimal
  | fuel + 1, decimal =>
      if decimal.digits ≠ 0 ∧ decimal.digits % 10 = 0 then
        trimmed fuel ⟨decimal.digits / 10, decimal.exponent + 1⟩
      else decimal

/-- The decimal with the fewest digits that rounds to this finite number (its
sign left aside), and of these the nearest. Seventeen digits always suffice. -/
def shortest (number : Binary64) : Decimal :=
  if number.significand = 0 then ⟨0, 0⟩
  else
    let interval := number.roundingInterval
    let leading := leadingPower interval.value interval.denominator
    let found := (List.range 17).findSome? fun (count : Nat) =>
      interval.onGrid? (leading - count)
    (found.getD ⟨0, 0⟩).trimmed 20

/-! ## Layouts -/

def digitText (value : Nat) : String :=
  String.ofList (Nat.toDigits 10 value)

def zeros (count : Nat) : String :=
  String.ofList (List.replicate count '0')

/-- Every place of the decimal, without an exponent and without a point when the
value is an integer. -/
def Decimal.positional (decimal : Decimal) : String :=
  let text := digitText decimal.digits
  if 0 ≤ decimal.exponent then
    if decimal.digits = 0 then "0" else text ++ zeros decimal.exponent.toNat
  else
    let places := (-decimal.exponent).toNat
    let padded := zeros (places + 1 - text.length) ++ text
    let characters := padded.toList
    String.ofList (characters.take (characters.length - places)) ++ "." ++
      String.ofList (characters.drop (characters.length - places))

/-- One digit, the others after a point, and a power of ten. -/
def Decimal.scientific (decimal : Decimal) : String :=
  let characters := (digitText decimal.digits).toList
  let power : Int := decimal.exponent + (characters.length - 1 : Nat)
  let rest := characters.drop 1
  String.ofList (characters.take 1) ++
    (if rest.isEmpty then "" else "." ++ String.ofList rest) ++
    "e" ++ (if power < 0 then "-" else "") ++ digitText power.natAbs

/-- Writes the sign and the special patterns, and finite magnitudes by a layout. -/
def writeWith (layout : Decimal → String) (notANumberText : String)
    (number : Binary64) : String :=
  if number.isNaN then notANumberText
  else
    (if number.isNegative then "-" else "") ++
      (if number.isInfinite then "inf" else layout number.shortest)

/-- All places, `1` for one: the form in messages about a value found. -/
def positional : Binary64 → String :=
  writeWith Decimal.positional "NaN"

/-- All places with a point always present: the form in configuration files. -/
def pointed : Binary64 → String :=
  writeWith (fun decimal =>
    decimal.positional ++ (if 0 ≤ decimal.exponent then ".0" else "")) "nan"

/-- Positional between `1e-4` and `1e16` with a point always present, and with an
exponent outside: the form in descriptions of values. -/
def general : Binary64 → String :=
  writeWith (fun decimal =>
    let power : Int := decimal.exponent + ((digitText decimal.digits).length : Int)
    if decimal.digits = 0 ∨ (-4 < power ∧ power ≤ 16) then
      decimal.positional ++ (if 0 ≤ decimal.exponent then ".0" else "")
    else decimal.scientific) "NaN"

/-- The sixteen lower-case hexadecimal digits of the bit pattern. -/
def hexText (number : Binary64) : String :=
  let digits := Nat.toDigits 16 number.bits.toNat
  zeros (16 - digits.length) ++ String.ofList digits

end Binary64
end AssetExchange
