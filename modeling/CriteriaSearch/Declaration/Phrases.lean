import CriteriaSearch.Declaration.TokenReader

/-!
# Phrases

The grammar of source text has phrases that hold one another: expressions, types, patterns and
statements.  `Phrases` is a reader for each of them.  The rules of the grammar are functions of such
readers, which they use for the phrases inside.

An expression is read for where it ends and whether it is one.  What else the grammar asks of it is
its `ExpressionForm`.
-/

namespace CriteriaSearch

/-- What the grammar asks of an expression that was read. -/
inductive ExpressionForm where
  /-- Two bounds, with dots between them: no operator may follow. -/
  | range
  /-- A comparison: no other one may follow. -/
  | comparison
  /-- An expression that ends with a block and needs no mark behind it. -/
  | block
  /-- A call of a text rule with its brackets. -/
  | invocation (b : Bracket)
  | other
  deriving DecidableEq

/-- How tightly operators bind, from loose to tight. -/
inductive Binding where
  | none
  | assignment
  | range
  | disjunction
  | conjunction
  | condition
  | comparison
  | bitOr
  | bitXor
  | bitAnd
  | shift
  | sum
  | product
  | cast
  deriving DecidableEq

namespace Binding

/-- The place from loose to tight. -/
def rank : Binding → Nat
  | none => 0
  | assignment => 1
  | range => 2
  | disjunction => 3
  | conjunction => 4
  | condition => 5
  | comparison => 6
  | bitOr => 7
  | bitXor => 8
  | bitAnd => 9
  | shift => 10
  | sum => 11
  | product => 12
  | cast => 13

/-- The operators between two operands; one that begins with another stands before it. -/
def operators : List (String × Binding) := [
  ("+=", assignment), ("-=", assignment), ("*=", assignment), ("/=", assignment),
  ("%=", assignment), ("^=", assignment), ("&=", assignment), ("|=", assignment),
  ("<<=", assignment), (">>=", assignment), ("&&", conjunction), ("||", disjunction),
  ("<<", shift), (">>", shift), ("==", comparison), ("<=", comparison), ("!=", comparison),
  (">=", comparison), ("+", sum), ("-", sum), ("*", product), ("/", product), ("%", product),
  ("^", bitXor), ("&", bitAnd), ("|", bitOr), ("<", comparison), (">", comparison)]

/-- The operator that tokens begin with. -/
def operator? (tokens : List Token) : Option (String × Binding) :=
  operators.find? fun o => Token.beginWith o.1 tokens

/-- Whether tokens begin with an assignment. -/
def beginsAssignment (tokens : List Token) : Bool :=
  Token.beginWith "=" tokens && !Token.beginWith "=>" tokens

/-- How tightly what the tokens begin with binds. -/
def ofFront (tokens : List Token) : Binding :=
  match operator? tokens with
  | some o => o.2
  | Option.none =>
    if beginsAssignment tokens then assignment
    else if Token.beginWith ".." tokens then range
    else if Token.beginWithWord "as" tokens then cast
    else none

end Binding

/-- A type that was read. -/
structure TypeForm where
  type : FieldType
  /-- Whether it is a path. -/
  isPath : Bool := false
  /-- Whether it is a name that could be bound to a type. -/
  isBindable : Bool := false

/-- Readers for the phrases of the grammar.  A flag `braces` tells whether a name may have a
structure in braces behind it, a flag `sums` whether a type may be a sum of bounds. -/
structure Phrases where
  expression : (braces : Bool) → TokenReader ExpressionForm
  /-- An expression without operators between operands. -/
  operand : (braces : Bool) → TokenReader ExpressionForm
  /-- What stands behind an operator. -/
  rightSide : (braces : Bool) → Binding → TokenReader ExpressionForm
  /-- An expression that ends with its first block. -/
  bounded : TokenReader ExpressionForm
  /-- The content of a block. -/
  statements : TokenReader Unit
  /-- A pattern without alternatives. -/
  pattern : TokenReader Unit
  type : (sums : Bool) → TokenReader TypeForm
  /-- A bound of a type: whether it is a trait. -/
  bound : TokenReader Bool

namespace Phrases

/-- Readers that give up. -/
def giveUp : Phrases where
  expression _ := TokenReader.failExpecting "an expression"
  operand _ := TokenReader.failExpecting "an expression"
  rightSide _ _ := TokenReader.failExpecting "an expression"
  bounded := TokenReader.failExpecting "an expression"
  statements := TokenReader.failExpecting "an expression"
  pattern := TokenReader.failExpecting "an expression"
  type _ := TokenReader.failExpecting "an expression"
  bound := TokenReader.failExpecting "an expression"

/-- Reads a block. -/
def block (p : Phrases) : TokenReader Unit :=
  TokenReader.group .curly p.statements

/-- Reads a pattern with alternatives. -/
def alternatives (p : Phrases) : TokenReader Unit := do
  let _ ← TokenReader.mark? "|"
  p.pattern
  TokenReader.repeatWhile do
    let tokens := (← get).tokens
    if Token.beginWith "|" tokens && !Token.beginWith "||" tokens && !Token.beginWith "|=" tokens then
      TokenReader.skip 1
      p.pattern
      return true
    else return false

/-! ## Tags -/

/-- Reads a path without arguments. -/
def plainName : TokenReader Unit := do
  let _ ← TokenReader.mark? "::"
  if ← TokenReader.sees Token.beginWithPart then TokenReader.skip 1
  else let _ ← TokenReader.name
  TokenReader.repeatWhile do
    if ← TokenReader.mark? "::" then
      if ← TokenReader.sees Token.beginWithPart then TokenReader.skip 1
      else TokenReader.failExpecting "path segment after `::`"
      return true
    else return false

/-- Reads what a tag says: a name, then nothing, a group or an expression behind an equals sign. -/
def tag (p : Phrases) : TokenReader Unit := do
  if ← TokenReader.seesWord "unsafe" then TokenReader.skip 1 else plainName
  match (← get).tokens with
  | .group _ _ :: _ => TokenReader.skip 1
  | .mark '=' _ :: behind =>
    TokenReader.skip 1
    if Token.beginWith "#" behind && Token.beginWithGroup .square (behind.drop 1) then
      throw .tagInTag
    let _ ← p.expression true
  | _ => return

/-- Reads tags: whether there are any. -/
def tags (p : Phrases) : TokenReader Bool := do
  let found ← TokenReader.seesMark "#"
  TokenReader.repeatWhile do
    if ← TokenReader.mark? "#" then
      TokenReader.group .square p.tag
      return true
    else return false
  return found

end Phrases

end CriteriaSearch
