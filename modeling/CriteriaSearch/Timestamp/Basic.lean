import CriteriaSearch.Timestamp.Calendar

/-!
# Points in time

A timestamp is a day of the universal calendar, a second of that day and nanoseconds.  A leap
second belongs to the second before it and carries a thousand million nanoseconds or more.

`Timestamp.text` is the canonical written form: date and time with a `T` between them, as many of
0, 3, 6 or 9 fraction digits as are needed, and a closing `Z`.  Years outside 0 to 9999 carry a
sign.
-/

namespace CriteriaSearch

/-- A point in universal time. -/
structure Timestamp where
  day : Int
  second : Nat
  nano : Nat
  deriving DecidableEq

namespace Timestamp

/-- The point of a number of milliseconds since the start of 1970, within the calendar's range. -/
def ofMillis? (millis : Int) : Option Timestamp :=
  let day := millis / 86400000
  let date := CivilDate.ofDayNumber day
  if CivilDate.minYear ≤ date.year ∧ date.year ≤ CivilDate.maxYear then
    let rest := (millis % 86400000).toNat
    some ⟨day, rest / 1000, rest % 1000 * 1000000⟩
  else none

/-- A natural number in decimal with zeros in front up to a width. -/
def padded (width n : Nat) : List Char :=
  let digits := Nat.toDigits 10 n
  List.replicate (width - digits.length) '0' ++ digits

/-- The text of a year. -/
def yearText (year : Int) : List Char :=
  if 0 ≤ year ∧ year ≤ 9999 then padded 4 year.toNat
  else (if year < 0 then '-' else '+') :: padded 4 year.natAbs

/-- The fraction of a second, with the fewest digits in steps of three. -/
def fractionText (nano : Nat) : List Char :=
  if nano = 0 then []
  else if nano % 1000000 = 0 then '.' :: padded 3 (nano / 1000000)
  else if nano % 1000 = 0 then '.' :: padded 6 (nano / 1000)
  else '.' :: padded 9 nano

/-- The canonical written form. -/
def text (t : Timestamp) : String :=
  let date := CivilDate.ofDayNumber t.day
  let leap := 1000000000 ≤ t.nano
  let second := t.second % 60 + (if leap then 1 else 0)
  let nano := if leap then t.nano - 1000000000 else t.nano
  String.ofList <|
    yearText date.year ++ '-' :: padded 2 date.month ++ '-' :: padded 2 date.day ++
    'T' :: padded 2 (t.second / 3600) ++ ':' :: padded 2 (t.second / 60 % 60) ++
    ':' :: padded 2 second ++ fractionText nano ++ ['Z']

end Timestamp

end CriteriaSearch
