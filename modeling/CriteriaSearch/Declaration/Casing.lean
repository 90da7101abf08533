/-!
# Casing of names

The rules by which the names of fields, words in lower case joined by underscores, become the names
of attributes.  Letters are those of ASCII: every other character stays as it is.
-/

namespace CriteriaSearch

/-- How the words of a name are written. -/
inductive Casing where
  | lower
  | upper
  | pascal
  | camel
  | snake
  | screamingSnake
  | kebab
  | screamingKebab
  deriving DecidableEq

namespace Casing

/-- The name of a rule: its own example. -/
def name : Casing → String
  | lower => "lowercase"
  | upper => "UPPERCASE"
  | pascal => "PascalCase"
  | camel => "camelCase"
  | snake => "snake_case"
  | screamingSnake => "SCREAMING_SNAKE_CASE"
  | kebab => "kebab-case"
  | screamingKebab => "SCREAMING-KEBAB-CASE"

/-- The rule of a name. -/
def ofName? (s : String) : Option Casing :=
  [lower, upper, pascal, camel, snake, screamingSnake, kebab, screamingKebab].find? (·.name == s)

theorem ofName?_name (c : Casing) : ofName? c.name = some c := by
  cases c <;> decide

/-- Drops underscores; the first letter of every word is a capital. -/
def capitalizeWords (starts : Bool) : List Char → List Char
  | [] => []
  | '_' :: rest => capitalizeWords true rest
  | c :: rest => (if starts then c.toUpper else c) :: capitalizeWords false rest

/-- Hyphens in place of underscores. -/
def hyphenate (s : List Char) : List Char :=
  s.map fun c => if c = '_' then '-' else c

/-- A name in the writing of a rule. -/
def apply (casing : Casing) (s : List Char) : List Char :=
  match casing with
  | lower | snake => s
  | upper | screamingSnake => s.map Char.toUpper
  | pascal => capitalizeWords true s
  | camel =>
    match capitalizeWords true s with
    | [] => []
    | c :: rest => c.toLower :: rest
  | kebab => hyphenate s
  | screamingKebab => hyphenate (s.map Char.toUpper)

end Casing

end CriteriaSearch
