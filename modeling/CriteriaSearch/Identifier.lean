import CriteriaSearch.Json.Printer

/-!
# Identifiers

A store addresses documents by text.  `Json.idText?` gives the identifier that a value denotes, and
`Json.isTruthy` tells the values that can denote one from those that stand for "no identifier".
-/

namespace CriteriaSearch.Json

/-- The identifier that a value denotes: a string itself, or the text of a number. -/
def idText? : Json → Option String
  | str s => some s
  | num n => some n.text
  | _ => none

/-- Null, false, zero and the empty text are not truthy; all else is, empty containers included. -/
def isTruthy : Json → Bool
  | null => false
  | bool b => b
  | num n => !n.toBinary64.isZero
  | str s => s != ""
  | arr _ => true
  | obj _ => true

end CriteriaSearch.Json
