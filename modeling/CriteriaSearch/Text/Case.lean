import CriteriaSearch.Text.CaseTable

/-!
# Letter case of text

Lowercasing of whole text, the single-character case pair of a letter, and the caseless
equivalence of two characters.  Lowercasing differs from mapping each character in two places: a
capital dotted I becomes two characters, and a capital sigma that ends a word becomes a final
sigma.
-/

namespace CriteriaSearch.Text

/-- The lowercase form of a character, where that is a single character. -/
def lower (c : Char) : Char :=
  Char.ofNat (CaseRun.image lowerRuns c.toNat)

/-- The uppercase form of a character, where that is a single character. -/
def upper (c : Char) : Char :=
  Char.ofNat (CaseRun.image upperRuns c.toNat)

/-- The capital dotted I, whose lowercase form is an i followed by a combining dot. -/
def dottedCapitalI : Char := Char.ofNat 0x130

/-- The small dotless i, whose uppercase form belongs to the dotted i as well. -/
def dotlessSmallI : Char := Char.ofNat 0x131

/-- The lowercase and uppercase forms of a character that has both as different single
characters. -/
def casePair? (c : Char) : Option (Char × Char) :=
  if c = dottedCapitalI || inRanges expandingUpper c.toNat then none
  else if lower c = upper c then none
  else some (lower c, upper c)

/-- One representative for all characters that a caseless comparison identifies.  The dotted
capital, the dotless small i and the letters of `comparedByCase` stand alone, and three letters with
an expanding uppercase form name their twin directly. -/
def caselessKey (c : Char) : Char :=
  if c = dottedCapitalI || c = dotlessSmallI || inRanges comparedByCase c.toNat then c
  else if c.toNat = 0xFB05 then Char.ofNat 0xFB06
  else if c.toNat = 0x1FD3 then Char.ofNat 0x390
  else if c.toNat = 0x1FE3 then Char.ofNat 0x3B0
  else lower (upper c)

/-- Caseless equality of characters. -/
def caselessEq (a b : Char) : Bool :=
  caselessKey a == caselessKey b

/-- Whether the first character that is not ignorable is cased. -/
def casedNext (s : List Char) : Bool :=
  match s.dropWhile fun c => inRanges caseIgnorable c.toNat with
  | c :: _ => inRanges cased c.toNat
  | [] => false

/-- Lowercase form of the characters that follow `before`, which is held in reverse. -/
def lowercaseAfter (before : List Char) : List Char → List Char
  | [] => []
  | c :: rest =>
    let here :=
      if c = dottedCapitalI then ['i', Char.ofNat 0x307]
      else if c.toNat = 0x3A3 then
        [Char.ofNat (if casedNext before && !casedNext rest then 0x3C2 else 0x3C3)]
      else [lower c]
    here ++ lowercaseAfter (c :: before) rest

/-- Lowercase form of a text. -/
def lowercase (s : String) : String :=
  String.ofList (lowercaseAfter [] s.toList)

/-- Lowercase form of the letters A to Z; every other character stays. -/
def asciiLowercase (s : String) : String :=
  String.ofList (s.toList.map Char.toLower)

/-- Uppercase form of the letters a to z; every other character stays. -/
def asciiUppercase (s : String) : String :=
  String.ofList (s.toList.map Char.toUpper)

theorem caselessEq_refl (c : Char) : caselessEq c c = true := by
  simp [caselessEq]

theorem caselessEq_comm (a b : Char) : caselessEq a b = caselessEq b a := by
  simp [caselessEq, Bool.beq_comm]

end CriteriaSearch.Text
