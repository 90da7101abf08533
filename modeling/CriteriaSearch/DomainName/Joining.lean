import CriteriaSearch.DomainName.CharacterTable
import CriteriaSearch.Text.Composition

/-!
# Joiners in labels

Two invisible characters say whether letters join.  A label holds them only where they make a
difference: behind a virama, and the one that parts letters also between letters that would join.
-/

namespace CriteriaSearch.DomainName

/-- Letters that join the letter behind them. -/
def leftJoining : Text.CodeTable := .ofText leftJoiningText

/-- Letters that join the letter before them. -/
def rightJoining : Text.CodeTable := .ofText rightJoiningText

/-- Characters that letters join across. -/
def transparent : Text.CodeTable := .ofText transparentText

/-- The character that keeps letters apart. -/
def nonJoiner : Char := Char.ofNat 0x200C

/-- The character that makes letters join. -/
def joiner : Char := Char.ofNat 0x200D

/-- Whether the first character that letters do not join across is a letter of a table. -/
def joinsInto (letters : Text.CodeTable) : List Char → Bool
  | [] => false
  | c :: rest => letters.covers c || (transparent.covers c && joinsInto letters rest)

/-- Whether a joiner makes a difference behind and before these characters; those before it are held
in reverse. -/
def joinerMatters (c : Char) (before after : List Char) : Bool :=
  match before with
  | [] => false
  | previous :: _ =>
    Text.combiningClass previous == Text.viramaClass ||
      (c == nonJoiner && joinsInto leftJoining before && joinsInto rightJoining after)

/-- Whether every joiner of a label makes a difference; the characters before it are held in
reverse. -/
def joinersMatter (before : List Char) : List Char → Bool
  | [] => true
  | c :: rest =>
    ((c != joiner && c != nonJoiner) || joinerMatters c before rest) && joinersMatter (c :: before) rest

end CriteriaSearch.DomainName
