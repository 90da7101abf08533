import CriteriaSearch.Text.CodeTable
import CriteriaSearch.Text.CompositionTable

/-!
# Canonical order and composition

A character with marks can be written as one composed character or as a base with marks behind it.
`compose` brings every way to write a text to one: it takes characters apart, sorts marks by their
combining classes, and puts bases and marks together again, as long as no mark of the same or a
higher class stands between them.

Characters that only stand for another one, and never come out of a composition, are left as they
are.
-/

namespace CriteriaSearch.Text

/-! ## Tables -/

/-- The combining classes of marks. -/
def combiningClasses : CodeTable := .ofText combiningClassesText

/-- The composed characters with their two parts. -/
def compositions : CodeTable := .ofText compositionsText

/-- The combining class of a character. -/
def combiningClass (c : Char) : Nat :=
  if c.toNat < 0x300 then 0
  else ((combiningClasses.find? c.toNat).bind fun run => run.image.head?).getD 0

/-- The combining class of a virama, which takes the vowel from a consonant. -/
def viramaClass : Nat := 9

/-! ## Syllables

The syllables of Hangul are composed by arithmetic: of a leading consonant, a vowel and perhaps a
trailing consonant. -/

/-- The parts of a syllable. -/
def syllableParts? (c : Char) : Option (List Char) :=
  let n := c.toNat - 0xAC00
  if c.toNat < 0xAC00 || 11172 ≤ n then none
  else
    let parts := [Char.ofNat (0x1100 + n / 588), Char.ofNat (0x1161 + n % 588 / 28)]
    some (if n % 28 = 0 then parts else parts ++ [Char.ofNat (0x11A7 + n % 28)])

/-- The syllable of two parts. -/
def syllable? (a b : Char) : Option Char :=
  let vowel := b.toNat - 0x1161
  let trailing := b.toNat - 0x11A7
  if 0x1100 ≤ a.toNat && a.toNat < 0x1113 && 0x1161 ≤ b.toNat && vowel < 21 then
    some (Char.ofNat (0xAC00 + (a.toNat - 0x1100) * 588 + vowel * 28))
  else if 0xAC00 ≤ a.toNat && a.toNat < 0xD7A4 && (a.toNat - 0xAC00) % 28 = 0 &&
      0x11A7 < b.toNat && trailing < 28 then
    some (Char.ofNat (a.toNat + trailing))
  else none

/-! ## Taking apart and putting together -/

/-- The parts of a character.  No character is composed in more steps than five. -/
def decompose (steps : Nat) (c : Char) : List Char :=
  match steps with
  | 0 => [c]
  | steps + 1 =>
    match syllableParts? c with
    | some parts => parts
    | none =>
      if c.toNat < 0xC0 then [c]
      else
        match compositions.find? c.toNat with
        | some run => run.image.flatMap fun n => decompose steps (Char.ofNat n)
        | none => [c]

/-- The character composed of two. -/
def composite? (a b : Char) : Option Char :=
  match syllable? a b with
  | some c => some c
  | none => (compositions.preimage? [a.toNat, b.toNat]).map Char.ofNat

/-- Puts a character behind a text, which is held in reverse: a mark goes before marks of higher
classes. -/
def pushInOrder (text : List Char) (c : Char) : List Char :=
  match text with
  | [] => [c]
  | d :: rest =>
    if combiningClass c ≠ 0 && combiningClass c < combiningClass d then d :: pushInOrder rest c
    else c :: d :: rest

/-- Composes a base, and the marks behind it held in reverse, with what follows. -/
def composeBase (base : Char) (marks : List Char) : List Char → List Char
  | [] => base :: marks.reverse
  | c :: rest =>
    let free := marks.head?.all fun m => combiningClass m < combiningClass c
    match if free then composite? base c else none with
    | some composed => composeBase composed marks rest
    | none =>
      if combiningClass c = 0 then base :: marks.reverse ++ composeBase c [] rest
      else composeBase base (c :: marks) rest

/-- Composes a text whose marks are in order. -/
def composeOrdered : List Char → List Char
  | [] => []
  | c :: rest =>
    if combiningClass c = 0 then composeBase c [] rest else c :: composeOrdered rest

/-- The composed form of a text. -/
def compose (s : List Char) : List Char :=
  composeOrdered ((s.flatMap (decompose 5)).foldl pushInOrder []).reverse

end CriteriaSearch.Text
