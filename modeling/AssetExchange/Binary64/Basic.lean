import AssetExchange.Word

/-!
# Double-precision numbers

A number of the 64-bit interchange format is its bit pattern: one sign bit,
eleven exponent bits and fifty-two fraction bits. Keeping the pattern makes
equality of values decidable and keeps the sign of zero, and the numerical
comparison `equals` is a function of two patterns.

`ofRatio` rounds an exact quotient to the nearest number, ties to the even
pattern; `ofDecimal` reads a decimal numeral through it.
-/

namespace AssetExchange

/-- A double-precision number, given by its bit pattern. -/
structure Binary64 where
  /-- Sign, exponent and fraction bits, from high to low. -/
  bits : UInt64
deriving DecidableEq

namespace Binary64

/-! ## Parts of the bit pattern -/

/-- The place of the bit in front of the fraction, two to the power of 52. -/
def leadingPlace : Nat := 0x10000000000000

/-- Whether the sign bit is set. -/
def isNegative (number : Binary64) : Bool :=
  signPlace ≤ number.bits.toNat

/-- Exponent and fraction bits, without the sign. -/
def magnitudeBits (number : Binary64) : Nat :=
  number.bits.toNat % signPlace

def exponentBits (number : Binary64) : Nat :=
  number.magnitudeBits / leadingPlace

def fractionBits (number : Binary64) : Nat :=
  number.magnitudeBits % leadingPlace

/-- The pattern of positive infinity without its sign. -/
def infinityBits : Nat := 2047 * leadingPlace

def isNaN (number : Binary64) : Bool :=
  number.magnitudeBits > infinityBits

def isInfinite (number : Binary64) : Bool :=
  number.magnitudeBits == infinityBits

def isFinite (number : Binary64) : Bool :=
  number.magnitudeBits < infinityBits

def isZero (number : Binary64) : Bool :=
  number.magnitudeBits == 0

/-- The integer factor of a finite number, which is `significand * 2 ^ scale`
up to sign. -/
def significand (number : Binary64) : Nat :=
  if number.exponentBits = 0 then number.fractionBits
  else leadingPlace + number.fractionBits

def scale (number : Binary64) : Int :=
  (max number.exponentBits 1 : Int) - 1075

/-- Numerical equality: nothing equals a pattern that is no number, and the two
zeros are equal. -/
def equals (first second : Binary64) : Bool :=
  !first.isNaN && !second.isNaN &&
    (first.bits == second.bits || (first.isZero && second.isZero))

/-! ## Building numbers -/

/-- The pattern with the given sign and magnitude bits. -/
def ofMagnitude (negative : Bool) (magnitude : Nat) : Binary64 :=
  ⟨UInt64.ofNat (if negative then signPlace + magnitude else magnitude)⟩

def zero (negative : Bool) : Binary64 := ofMagnitude negative 0

def infinity (negative : Bool) : Binary64 := ofMagnitude negative infinityBits

/-- The positive quiet pattern that stands for no number. -/
def notANumber : Binary64 := ofMagnitude false (infinityBits + leadingPlace / 2)

/-- The quotient rounded to the nearest integer, ties to the even one. -/
def roundedQuotient (numerator denominator : Nat) : Nat :=
  let quotient := numerator / denominator
  let twiceRest := 2 * (numerator % denominator)
  if twiceRest < denominator then quotient
  else if denominator < twiceRest then quotient + 1
  else quotient + quotient % 2

/-- The quotient `numerator / denominator` rounded to a multiple of
`2 ^ exponent`, as that multiple's factor. -/
def roundedMultiple (numerator denominator : Nat) (exponent : Int) : Nat :=
  if 0 ≤ exponent then
    roundedQuotient numerator (denominator * Nat.pow 2 exponent.toNat)
  else roundedQuotient (numerator * Nat.pow 2 (-exponent).toNat) denominator

/-- The number nearest to `numerator / denominator`. The exponent is the least
one that leaves at most fifty-three significant bits; a factor that rounds up to
the next power of two carries into the exponent bits by itself. -/
def ofRatio (negative : Bool) (numerator denominator : Nat) : Binary64 :=
  if numerator = 0 then zero negative
  else
    let estimate : Int := (numerator.log2 : Int) - denominator.log2 - 53
    let narrow : Bool :=
      if 0 ≤ estimate then numerator < denominator * Nat.pow 2 (estimate.toNat + 53)
      else numerator * Nat.pow 2 (-estimate).toNat < denominator * (2 * leadingPlace)
    let exponent := max (if narrow then estimate else estimate + 1) (-1074)
    let magnitude :=
      (exponent + 1074).toNat * leadingPlace +
        roundedMultiple numerator denominator exponent
    ofMagnitude negative (min magnitude infinityBits)

def ofInt (value : Int) : Binary64 :=
  ofRatio (value < 0) value.natAbs 1

/-- The number nearest to `digits * 10 ^ exponent`. Powers far outside the range
of the format are settled without computing them. -/
def ofDecimal (negative : Bool) (digits : Nat) (exponent : Int) : Binary64 :=
  if digits = 0 then zero negative
  else
    let places : Int := (Nat.toDigits 10 digits).length + exponent
    if 400 < places then infinity negative
    else if places < -400 then zero negative
    else if 0 ≤ exponent then ofRatio negative (digits * Nat.pow 10 exponent.toNat) 1
    else ofRatio negative digits (Nat.pow 10 (-exponent).toNat)

@[simp] theorem equals_self_iff (number : Binary64) :
    number.equals number = true ↔ number.isNaN = false := by
  simp [equals]

end Binary64

end AssetExchange
