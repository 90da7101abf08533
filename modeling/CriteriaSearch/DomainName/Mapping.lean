import CriteriaSearch.DomainName.MappingTable
import CriteriaSearch.Text.Case
import CriteriaSearch.Text.CodeTable

/-!
# The characters of a domain name

A domain name may be written in more than one way: capitals stand for small letters, wide and
decorated letters for plain ones, and some characters for nothing.  `image?` is what a character
stands for, where a domain name may hold it at all; the characters that stand for themselves are
those of labels.
-/

namespace CriteriaSearch.DomainName

/-- Code points that a domain name may be written with. -/
def assigned : Text.CodeTable := .ofText assignedText

/-- Code points that are dropped. -/
def ignored : Text.CodeTable := .ofText ignoredText

/-- Code points that stand for others than their lowercase form. -/
def mappings : Text.CodeTable := .ofText mappingsText

/-- What a character of a domain name stands for. -/
def image? (c : Char) : Option (List Char) :=
  if c.toNat < 0x80 then some [c.toLower]
  else if !assigned.covers c then none
  else if ignored.covers c then some []
  else
    match mappings.find? c.toNat with
    | some run => some ((run.imageOf c.toNat).map Char.ofNat)
    | none => some [Text.lower c]

/-- Whether a label may hold a character. -/
def isKept (c : Char) : Bool :=
  image? c == some [c]

end CriteriaSearch.DomainName
