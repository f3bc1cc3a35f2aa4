import AssetExchange.Text.Numeral

/-!
# Configuration files: dates and times

A date, a time of day, or both with an optional offset. Only the text matters to a
configuration, so a date or time is read as its normal form: `T` between date and time,
`Z` or hours and minutes for the offset, and at most nine digits of a second without
trailing zeros.
-/

namespace AssetExchange
namespace Toml

/-- Reads a number of exactly so many digits; the digits and the value. -/
def readFixed (count : Nat) (characters : List Char) :
    Option (List Char × Nat × List Char) := do
  let digits := characters.take count
  guard (digits.length = count)
  let value ← Text.digits? digits
  return (digits, value, characters.drop count)

def readPair (low high : Nat) (characters : List Char) :
    Option (List Char × List Char) := do
  let (digits, value, rest) ← readFixed 2 characters
  guard (low ≤ value ∧ value ≤ high)
  return (digits, rest)

def after? (expected : Char) : List Char → Option (List Char)
  | [] => none
  | character :: rest => if character = expected then some rest else none

def isLeapYear (year : Nat) : Bool :=
  year % 4 == 0 && (year % 100 != 0 || year % 400 == 0)

def daysIn (year month : Nat) : Nat :=
  if month = 2 then if isLeapYear year then 29 else 28
  else if month = 4 ∨ month = 6 ∨ month = 9 ∨ month = 11 then 30
  else 31

def readDate (characters : List Char) : Option (List Char × List Char) := do
  let (yearDigits, year, rest) ← readFixed 4 characters
  let rest ← after? '-' rest
  let (monthDigits, month, rest) ← readFixed 2 rest
  guard (1 ≤ month ∧ month ≤ 12)
  let rest ← after? '-' rest
  let (dayDigits, rest) ← readPair 1 (daysIn year month) rest
  return (yearDigits ++ '-' :: monthDigits ++ '-' :: dayDigits, rest)

/-- The normal form of a fraction of a second with its point; empty for nothing. -/
def normalFraction (digits : List Char) : List Char :=
  let significant := ((digits.take 9).reverse.dropWhile (· == '0')).reverse
  if significant.isEmpty then [] else '.' :: significant

/-- Reads a time of day. A minute may have a sixty-first second. -/
def readTime (characters : List Char) : Option (List Char × List Char) := do
  let (hour, rest) ← readPair 0 23 characters
  let rest ← after? ':' rest
  let (minute, rest) ← readPair 0 59 rest
  let rest ← after? ':' rest
  let (second, rest) ← readPair 0 60 rest
  let whole := hour ++ ':' :: minute ++ ':' :: second
  match rest with
  | '.' :: digit :: more =>
      if digit.isDigit then
        let digits := (digit :: more).takeWhile Char.isDigit
        return (whole ++ normalFraction digits, (digit :: more).dropWhile Char.isDigit)
      else return (whole, rest)
  | _ => return (whole, rest)

/-- Reads an offset in hours and minutes after its sign. -/
def readOffsetHours (sign : Char) (characters : List Char) :
    Option (List Char × List Char) := do
  let (hour, rest) ← readPair 0 23 characters
  let rest ← after? ':' rest
  let (minute, rest) ← readPair 0 59 rest
  let magnitude := hour ++ ':' :: minute
  return ((if magnitude = "00:00".toList then '+' else sign) :: magnitude, rest)

def readOffset : List Char → Option (List Char × List Char)
  | 'Z' :: rest => some (['Z'], rest)
  | 'z' :: rest => some (['Z'], rest)
  | '+' :: rest => readOffsetHours '+' rest
  | '-' :: rest => readOffsetHours '-' rest
  | _ => none

/-- Reads a time of day after a date, with an offset if there is one. -/
def readDayTime (characters : List Char) : Option (List Char × List Char) := do
  let (time, rest) ←
    match characters with
    | 'T' :: rest => readTime rest
    | 't' :: rest => readTime rest
    | ' ' :: rest => readTime rest
    | _ => none
  match readOffset rest with
  | some (offset, after) => return ('T' :: time ++ offset, after)
  | none => return ('T' :: time, rest)

def readDateTime (characters : List Char) : Option (String × List Char) :=
  match readDate characters with
  | some (date, rest) =>
      match readDayTime rest with
      | some (time, after) => some (String.ofList (date ++ time), after)
      | none => some (String.ofList date, rest)
  | none => (readTime characters).map fun (time, rest) => (String.ofList time, rest)

end Toml
end AssetExchange
