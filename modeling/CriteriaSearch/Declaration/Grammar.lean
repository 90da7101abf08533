import CriteriaSearch.Declaration.ExpressionGrammar

/-!
# The grammar of source text

The rules for phrases, put together: `Phrases.nested` reads phrases that hold one another down to a
depth, and no phrase is deeper than it has tokens, counted with those inside of groups.
-/

namespace CriteriaSearch

namespace Phrases

/-- Readers for phrases down to a depth. -/
def nested : Nat → Phrases
  | 0 => giveUp
  | depth + 1 => {
      expression := fun braces => (nested depth).readExpression braces
      operand := fun braces => (nested depth).readOperand braces
      rightSide := fun braces binding => (nested depth).readRightSide braces binding
      bounded := (nested depth).readBounded
      statements := (nested depth).readStatements
      pattern := (nested depth).readPattern
      type := fun sums => (nested depth).readType sums
      bound := (nested depth).readBound }

/-- Readers for any phrase of some tokens. -/
def forTokens (tokens : List Token) : Phrases :=
  nested (2 * Token.totalWeight tokens + 2)

end Phrases

/-- Reads the expression that tokens begin with, and gives the rest. -/
def Token.afterExpression (tokens : List Token) : Except DeclarationError TokenInput :=
  (·.2) <$> ((Phrases.forTokens tokens).expression true).run { tokens }

/-- The type of tokens. -/
def FieldType.ofTokens? (tokens : List Token) : Option FieldType :=
  match ((Phrases.forTokens tokens).type true).run { tokens } with
  | .ok (form, rest) =>
    if rest.tokens.isEmpty && rest.unfinished.isNone then some form.type else none
  | .error _ => none

end CriteriaSearch
