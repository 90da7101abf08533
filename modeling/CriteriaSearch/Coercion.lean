import CriteriaSearch.Binary64.Decimal
import CriteriaSearch.Json.Basic
import CriteriaSearch.Schema
import CriteriaSearch.Text.Blank

/-!
# Coercion to declared types

A text that is sent for an attribute of another type is read as a value of that type: the integer
in front of it, a decimal number, or one of the words `true`, `false` and `null`.  A text that does
not read stays text, items of lists are coerced one by one, and every other value stays as it is.
-/

namespace CriteriaSearch

/-- The integer that a text starts with, after blanks and an optional sign; none where there are no
digits or their magnitude is beyond the signed 64-bit range. -/
def leadingInteger? (text : List Char) : Option Int :=
  let (negative, rest) := Binary64.splitSign (Text.trimStart text)
  let digits := rest.takeWhile Char.isDigit
  let n := Binary64.natOfDigits digits
  if digits.isEmpty || 0x8000000000000000 ≤ n then none
  else some (if negative then -(n : Int) else n)

/-- The value that a text stands for under a declared type. -/
def AttributeType.readText? (type : AttributeType) (text : String) : Option Json :=
  match type with
  | .string | .text => none
  | .integer => (leadingInteger? text.toList).map fun n => .num (.int n)
  | .float => (Binary64.ofText? (Text.trim text.toList)).map fun x => .num (.float x)
  | _ =>
    if text = "true" then some (.bool true)
    else if text = "false" then some (.bool false)
    else if text = "null" then some .null
    else none

namespace Json

mutual

/-- A value coerced to a declared type; nothing is declared where the type is missing. -/
def coerce (type : Option AttributeType) : Json → Json
  | .arr items => .arr (coerceItems type items)
  | .str s => ((type.bind fun t => t.readText? s).getD (.str s))
  | v => v

/-- Every item coerced. -/
def coerceItems (type : Option AttributeType) : List Json → List Json
  | [] => []
  | v :: rest => coerce type v :: coerceItems type rest

end

end Json

/-- A value coerced to the declared type of a field. -/
def Schema.coerce (s : Schema) (field : String) (v : Json) : Json :=
  v.coerce (s.declaredType? field)

end CriteriaSearch
