import CriteriaSearch.DomainName.Direction
import CriteriaSearch.DomainName.Joining
import CriteriaSearch.DomainName.Mapping
import CriteriaSearch.DomainName.Punycode

/-!
# Domain names

A domain name is a text of labels with dots between them.  `labels?` reads the labels in the one form
that all ways to write a name have in common: every character replaced by what it stands for, the
text composed, and labels in digits (`xn--…`) written out.

A name is refused for a character that no label holds, for digits that stand for no label or for one
in another form, for a label that begins with a mark, for a joiner that makes no difference, for
labels of mixed direction, and for labels beyond a length.
-/

namespace CriteriaSearch.DomainName

/-- Combining marks. -/
def marks : Text.CodeTable := .ofText marksText

/-- Characters of the basic range that no label holds. -/
def isForbidden (c : Char) : Bool :=
  c.toNat ≤ 0x20 || c.toNat == 0x7F || "#/:<>?@[\\]^|%".toList.contains c

/-- The most digits that are read, and the most characters of a label outside the basic range. -/
def digitLimit : Nat := 2000

@[inherit_doc digitLimit]
def characterLimit : Nat := 1000

/-- A label without digits for other characters. -/
def writtenOut? (label : List Char) : Option (List Char) :=
  match label with
  | 'x' :: 'n' :: '-' :: '-' :: digits => do
    if digits.getLast?.all (· == '-') || digitLimit < digits.length then none
    else
      let label ← Punycode.decode? digits
      if label.all isKept && Text.compose label == label then some label else none
  | label => some label

/-- Whether a label is in order by itself. -/
def isLabel (label : List Char) : Bool :=
  !label.any isForbidden && !label.head?.any marks.covers && joinersMatter [] label &&
    (label.all (·.toNat < 0x80) || label.length ≤ characterLimit)

/-- The labels of a domain name. -/
def labels? (s : List Char) : Option (List (List Char)) := do
  let mapped ← s.mapM image?
  let labels ← (Text.splitAt '.' (Text.compose mapped.flatten)).mapM writtenOut?
  if labels.all isLabel && (!labels.any Direction.mattersIn || labels.all Direction.isKeptBy) then
    some labels
  else none

end CriteriaSearch.DomainName
