import CriteriaSearch.Declaration.Token
import CriteriaSearch.Text.Split

/-!
# Fields by number

A field without a name is called by its index, which is a whole number without a suffix that fits in
32 bits.  `a.1.0` asks for a field of a field, although `1.0` is one token: `FieldIndex.path` takes
such a token apart at its points.
-/

namespace CriteriaSearch.FieldIndex

/-- The base of a number, and its text behind the marks of the base. -/
def base : List Char → Nat × List Char
  | '0' :: 'x' :: rest => (16, rest)
  | '0' :: 'o' :: rest => (8, rest)
  | '0' :: 'b' :: rest => (2, rest)
  | s => (10, s)

/-- The value of a digit. -/
def digit? (base : Nat) (c : Char) : Option Nat :=
  (Text.hexValue? c).filter (· < base)

/-- The value of digits, among which underscores count for nothing. -/
def value (base : Nat) (s : List Char) : Nat :=
  s.foldl (fun n c => match digit? base c with
    | some d => base * n + d
    | none => n) 0

/-- The digits of a number in its base, and what stands behind them. -/
def splitDigits (s : List Char) : Nat × List Char × List Char :=
  let (base, s) := base s
  let continues (c : Char) : Bool := c == '_' || (digit? base c).isSome
  (base, s.takeWhile continues, s.dropWhile continues)

/-- Whether the text of a number has a point or an exponent. -/
def isFraction (s : List Char) : Bool :=
  let (base, _, behind) := splitDigits s
  base = 10 && (behind.head? == some '.' || !(Token.exponent behind).isEmpty)

/-- The index that the text of a number is. -/
def ofNumber (s : List Char) : Except DeclarationError Nat :=
  let (base, digits, suffix) := splitDigits s
  let index := value base digits
  if isFraction s then .error (.expected "integer literal" false)
  else if !suffix.isEmpty then .error .suffixedIndex
  else if UInt32.size ≤ index then .error .oversizedIndex
  else .ok index

/-- The indices in the text of a number, and whether a point stands behind them. -/
def path (s : List Char) : Except DeclarationError (List Nat × Bool) := do
  if isFraction s then
    let parts := Text.splitAt '.' s
    return (← (parts.filter (!·.isEmpty)).mapM ofNumber, parts.getLast? == some [])
  else return ([← ofNumber s], false)

end CriteriaSearch.FieldIndex
