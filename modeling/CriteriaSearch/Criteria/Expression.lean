import CriteriaSearch.Json.Basic

/-!
# Field expressions

What a where-clause says about one field.  A scalar asks for equality, a list for membership, and
an object for a set of modifiers, each named by its key: the symbols and the long names as written,
the short names in any letter case.  A key that names no modifier is kept together with its value.
-/

namespace CriteriaSearch

/-- The ends of a range. -/
inductive RangeBound where
  | gt
  | gte
  | lt
  | lte
  deriving DecidableEq

/-- The ways in which a text can be compared with a pattern. -/
inductive TextMatch where
  | contains
  | like
  | startsWith
  | endsWith
  deriving DecidableEq

/-- The name of a bound in queries. -/
def RangeBound.name : RangeBound → String
  | gt => "gt"
  | gte => "gte"
  | lt => "lt"
  | lte => "lte"

/-- The name of a text comparison in queries. -/
def TextMatch.name : TextMatch → String
  | contains => "contains"
  | like => "like"
  | startsWith => "startsWith"
  | endsWith => "endsWith"

/-- What a modifier key means. -/
inductive ModifierKind where
  | not
  | range (bound : RangeBound)
  | text (how : TextMatch)
  | other
  deriving DecidableEq

/-- The keys that are matched as written. -/
def ModifierKind.exactNames : List (String × ModifierKind) :=
  [("!", .not),
   ("<", .range .lt), ("lessThan", .range .lt),
   ("<=", .range .lte), ("lessThanOrEqual", .range .lte),
   (">", .range .gt), ("greaterThan", .range .gt),
   (">=", .range .gte), ("greaterThanOrEqual", .range .gte),
   ("contains", .text .contains), ("like", .text .like),
   ("startsWith", .text .startsWith), ("endsWith", .text .endsWith)]

/-- The keys that are matched in any letter case. -/
def ModifierKind.caselessNames : List (String × ModifierKind) :=
  [("not", .not), ("lt", .range .lt), ("lte", .range .lte), ("gt", .range .gt),
   ("gte", .range .gte)]

/-- The meaning of a modifier key. -/
def ModifierKind.ofKey (key : String) : ModifierKind :=
  match exactNames.find? (·.1 == key) with
  | some (_, kind) => kind
  | none =>
    match caselessNames.find? (·.1 == String.ofList (key.toList.map Char.toLower)) with
    | some (_, kind) => kind
    | none => .other

mutual

/-- What a clause says about one field. -/
inductive Expression where
  | literal (value : Json)
  | oneOf (values : List Json)
  | modifiers (modifiers : List Modifier)

/-- One modifier of a field. -/
inductive Modifier where
  | not (inner : Expression)
  | range (bound : RangeBound) (value : Json)
  | text (how : TextMatch) (value : Json)
  | other (key : String) (value : Json)

end

mutual

/-- Reads an expression. -/
def Expression.ofJson : Json → Expression
  | .arr items => .oneOf items
  | .obj entries => .modifiers (Modifier.ofEntries entries)
  | v => .literal v

/-- Reads the modifiers of an object, in the order of its keys. -/
def Modifier.ofEntries : List (String × Json) → List Modifier
  | [] => []
  | (key, value) :: rest =>
    (match ModifierKind.ofKey key with
      | .not => .not (Expression.ofJson value)
      | .range bound => .range bound value
      | .text how => .text how value
      | .other => .other key value) :: Modifier.ofEntries rest

end

end CriteriaSearch
