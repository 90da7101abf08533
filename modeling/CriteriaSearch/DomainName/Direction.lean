import CriteriaSearch.DomainName.CharacterTable
import CriteriaSearch.Text.CodeTable

/-!
# The direction of labels

Letters are written from left to right or from right to left, and a label of letters of both
directions could be read in two ways.  As soon as one label of a domain name holds a character that
is written from right to left, every label has to keep to one direction: that of its first
character, and it ends with a letter of that direction or with a digit.
-/

namespace CriteriaSearch.DomainName

/-- Letters from right to left. -/
def rightToLeft : Text.CodeTable := .ofText rightToLeftText

/-- Digits among letters from right to left. -/
def arabicNumbers : Text.CodeTable := .ofText arabicNumbersText

/-- Digits among letters of both directions. -/
def europeanNumbers : Text.CodeTable := .ofText europeanNumbersText

/-- Marks without a direction of their own. -/
def nonspacing : Text.CodeTable := .ofText nonspacingText

/-- Signs without a direction of their own. -/
def neutral : Text.CodeTable := .ofText neutralText

/-- How a character is written. -/
inductive Direction where
  | leftToRight
  | rightToLeft
  | arabicNumber
  | europeanNumber
  | nonspacing
  | neutral
  deriving DecidableEq

namespace Direction

/-- How a character is written. -/
def ofChar (c : Char) : Direction :=
  if DomainName.rightToLeft.covers c then rightToLeft
  else if arabicNumbers.covers c then arabicNumber
  else if europeanNumbers.covers c then europeanNumber
  else if DomainName.nonspacing.covers c then nonspacing
  else if DomainName.neutral.covers c then neutral
  else leftToRight

/-- Whether a label keeps to one direction. -/
def isKeptBy (label : List Char) : Bool :=
  match label.map ofChar with
  | [] => true
  | first :: rest =>
    let rest := (rest.reverse.dropWhile (· == nonspacing)).reverse
    match first with
    | leftToRight =>
      !rest.contains rightToLeft && !rest.contains arabicNumber &&
        rest.getLast?.all fun d => d == leftToRight || d == europeanNumber
    | rightToLeft =>
      !rest.contains leftToRight && !(rest.contains arabicNumber && rest.contains europeanNumber) &&
        rest.getLast?.all fun d => d == rightToLeft || d == arabicNumber || d == europeanNumber
    | _ => false

/-- Whether a label makes every label keep to one direction. -/
def mattersIn (label : List Char) : Bool :=
  label.any fun c => ofChar c == rightToLeft || ofChar c == arabicNumber

end Direction

end CriteriaSearch.DomainName
