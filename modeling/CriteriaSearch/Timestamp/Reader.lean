import CriteriaSearch.Binary64.Decimal
import CriteriaSearch.Text.Blank
import CriteriaSearch.Timestamp.Basic

/-!
# Reading points in time

Four written forms are tried in order: a full timestamp with its offset from universal time, date
and time joined by a `T`, date and time apart by blanks, and a date alone.

The first form has fixed widths.  In the other three a number may be shorter than its width and may
follow blanks, and a signed year may have any number of digits.  A second of 60 is a leap second; it
is kept, whatever the minute.  Digits of a fraction past the ninth are dropped.
-/

namespace CriteriaSearch.Timestamp

/-- What the written forms name. -/
structure Fields where
  date : CivilDate
  hour : Nat := 0
  minute : Nat := 0
  second : Nat := 0
  nano : Nat := 0

/-- The point in time of fields that are `offset` seconds ahead of universal time; none where the
calendar or the clock has no such reading. -/
def ofFields? (f : Fields) (offset : Int) : Option Timestamp :=
  if f.date.Valid ∧ f.hour < 24 ∧ f.minute < 60 ∧ f.second ≤ 60 then
    let leap := f.second = 60
    let second := if leap then 59 else f.second
    let nano := if leap then 1000000000 + f.nano else f.nano
    let instant := (f.hour * 3600 + f.minute * 60 + second : Nat) - offset
    some ⟨f.date.toDayNumber + instant / 86400, (instant % 86400).toNat, nano⟩
  else none

/-! ## Parts -/

/-- Reads between `least` and `most` digits as a number. -/
def number? (least most : Nat) (s : List Char) : Option (Nat × List Char) :=
  let digits := (s.take most).takeWhile Char.isDigit
  if digits.length < least then none
  else some (Binary64.natOfDigits digits, s.drop digits.length)

/-- Reads one given character. -/
def char? (c : Char) : List Char → Option (List Char)
  | d :: rest => if d = c then some rest else none
  | [] => none

/-- Reads an optional fraction of a second as nanoseconds. -/
def fraction? : List Char → Option (Nat × List Char)
  | '.' :: rest =>
    let digits := rest.takeWhile Char.isDigit
    if digits.isEmpty then none
    else
      let kept := digits.take 9
      some (Binary64.natOfDigits kept * pow10 (9 - kept.length), rest.dropWhile Char.isDigit)
  | s => some (0, s)

/-- Reads an offset from universal time, in seconds: `Z`, or a sign, hours, a colon and minutes,
below a whole day. -/
def offset? : List Char → Option (Int × List Char)
  | [] => none
  | c :: rest =>
    if c = 'Z' || c = 'z' then some (0, rest)
    else if c = '+' || c = '-' || c.toNat = 0x2212 then do
      let (hours, rest) ← number? 2 2 rest
      let rest ← char? ':' rest
      let (minutes, rest) ← number? 2 2 rest
      if 60 ≤ minutes || 24 ≤ hours then none
      else
        let seconds : Int := (hours * 3600 + minutes * 60 : Nat)
        some (if c = '+' then seconds else -seconds, rest)
    else none

/-- Reads a number of at most `most` digits after blanks. -/
def loose? (most : Nat) (s : List Char) : Option (Nat × List Char) :=
  number? 1 most (Text.trimStart s)

/-- Reads a year after blanks: four digits at most, or a sign and any number of digits. -/
def looseYear? (s : List Char) : Option (Int × List Char) :=
  match Text.trimStart s with
  | '-' :: rest => (number? 1 rest.length rest).map fun (n, rest) => (-(n : Int), rest)
  | '+' :: rest => (number? 1 rest.length rest).map fun (n, rest) => ((n : Int), rest)
  | rest => (number? 1 4 rest).map fun (n, rest) => ((n : Int), rest)

/-- Reads a date in the loose form. -/
def looseDate? (s : List Char) : Option (CivilDate × List Char) := do
  let (year, s) ← looseYear? s
  let (month, s) ← loose? 2 (← char? '-' s)
  let (day, s) ← loose? 2 (← char? '-' s)
  return (⟨year, month, day⟩, s)

/-- Reads a time in the loose form and ends the text. -/
def looseTime? (date : CivilDate) (s : List Char) : Option Fields := do
  let (hour, s) ← loose? 2 s
  let (minute, s) ← loose? 2 (← char? ':' s)
  let (second, s) ← loose? 2 (← char? ':' s)
  let (nano, s) ← fraction? s
  if s.isEmpty then some { date, hour, minute, second, nano } else none

/-! ## Written forms -/

/-- A timestamp with an offset, in fixed widths. -/
def ofFullText? (s : List Char) : Option Timestamp := do
  let (year, s) ← number? 4 4 s
  let (month, s) ← number? 2 2 (← char? '-' s)
  let (day, s) ← number? 2 2 (← char? '-' s)
  match s with
  | [] => none
  | c :: s =>
    if c = 'T' || c = 't' || c = ' ' then
      let (hour, s) ← number? 2 2 s
      let (minute, s) ← number? 2 2 (← char? ':' s)
      let (second, s) ← number? 2 2 (← char? ':' s)
      let (nano, s) ← fraction? s
      let (offset, s) ← offset? s
      if s.isEmpty then
        ofFields? { date := ⟨year, month, day⟩, hour, minute, second, nano } offset
      else none
    else none

/-- Date and time joined by a `T`. -/
def ofJoinedText? (s : List Char) : Option Timestamp := do
  let (date, s) ← looseDate? s
  ofFields? (← looseTime? date (← char? 'T' s)) 0

/-- Date and time with blanks between them. -/
def ofSpacedText? (s : List Char) : Option Timestamp := do
  let (date, s) ← looseDate? s
  ofFields? (← looseTime? date (Text.trimStart s)) 0

/-- A date, for the start of its day. -/
def ofDateText? (s : List Char) : Option Timestamp := do
  let (date, s) ← looseDate? s
  if s.isEmpty then ofFields? { date } 0 else none

/-- Reads a point in time. -/
def ofText? (s : String) : Option Timestamp :=
  let cs := s.toList
  ofFullText? cs <|> ofJoinedText? cs <|> ofSpacedText? cs <|> ofDateText? cs

end CriteriaSearch.Timestamp
