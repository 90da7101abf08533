/-!
# Labels in digits

A label of any characters can be written in letters, digits and hyphens.  The characters of the
basic range come first, with a hyphen behind the last of them, and then numbers that say which
characters are inserted where, in ascending order of their code points.

A number is written in digits of base thirty-six, the smallest first.  A digit below a threshold ends
its number; the thresholds adapt to the numbers that were read.  Numbers stay below two to the
thirty-second power.
-/

namespace CriteriaSearch.DomainName.Punycode

/-- The value of a digit: letters before digits. -/
def digitValue? (c : Char) : Option Nat :=
  if 'a' ≤ c && c ≤ 'z' then some (c.toNat - 'a'.toNat)
  else if 'A' ≤ c && c ≤ 'Z' then some (c.toNat - 'A'.toNat)
  else if c.isDigit then some (c.toNat - '0'.toNat + 26)
  else none

/-- The threshold of a digit, by its place in base thirty-six. -/
def threshold (place bias : Nat) : Nat :=
  if place ≤ bias then 1 else if bias + 26 ≤ place then 26 else place - bias

/-- Scales a number down; every step counts for thirty-six. -/
def scaleDown (delta bias : Nat) : Nat × Nat :=
  if h : 455 < delta then scaleDown (delta / 35) (bias + 36) else (delta, bias)
termination_by delta
decreasing_by omega

/-- The bias after a number, for a label of a length. -/
def adapt (delta length : Nat) (first : Bool) : Nat :=
  let halved := if first then delta / 700 else delta / 2
  let (scaled, bias) := scaleDown (halved + halved / length) 0
  bias + 36 * scaled / (scaled + 38)

/-- The first number that is too large. -/
def limit : Nat := 0x100000000

/-- A label that is being read. -/
structure State where
  label : List Char
  code : Nat := 0x80
  bias : Nat := 72
  /-- Where the next character goes, as far as the current number is read. -/
  position : Nat := 0
  /-- The position before the current number. -/
  start : Nat := 0
  weight : Nat := 1
  place : Nat := 36
  /-- Whether a number has begun and not ended. -/
  inNumber : Bool := false

namespace State

/-- Inserts the character that the number gives. -/
def insert (s : State) : Option State :=
  let length := s.label.length + 1
  let code := s.code + s.position / length
  let position := s.position % length
  if code.isValidChar then
    some {
      label := s.label.insertIdx position (Char.ofNat code)
      code
      bias := adapt (s.position - s.start) length (s.start = 0)
      position := position + 1
      start := position + 1 }
  else none

/-- Reads one digit. -/
def read (s : State) (c : Char) : Option State := do
  let digit ← digitValue? c
  let position := s.position + digit * s.weight
  if limit ≤ position then none
  else
    let t := threshold s.place s.bias
    if digit < t then insert { s with position }
    else if limit ≤ s.weight * (36 - t) then none
    else some { s with
      position, weight := s.weight * (36 - t), place := s.place + 36, inNumber := true }

end State

/-- The characters before the last hyphen, if there is one behind a character, and the rest. -/
def split (s : List Char) : List Char × List Char :=
  let digits := (s.reverse.takeWhile (· != '-')).reverse
  if digits.length + 1 < s.length then (s.take (s.length - digits.length - 1), digits) else ([], s)

/-- The label that is written. -/
def decode? (s : List Char) : Option (List Char) := do
  let (basic, digits) := split s
  let state ← digits.foldlM State.read ({ label := basic } : State)
  if state.inNumber then none else some state.label

end CriteriaSearch.DomainName.Punycode
