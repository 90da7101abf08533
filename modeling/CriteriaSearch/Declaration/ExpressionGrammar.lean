import CriteriaSearch.Declaration.PatternGrammar

/-!
# The grammar of expressions

An expression is an operand, and operators with more operands behind it.  An operand is an atom with
prefixes before it, and calls, fields and indices behind it.  Expressions are read for where they
end, and for the little that the grammar asks of them (`ExpressionForm`).

Blocks hold statements.  An item in a block, such as a function or a constant, is passed over up to
its end.
-/

namespace CriteriaSearch.Phrases

open TokenReader

/-! ## Operators -/

/-- Whether a range ends with its dots. -/
def endsRange (braces : Bool) (tokens : List Token) : Bool :=
  tokens.isEmpty || (Token.beginWith "." tokens && !Token.beginWith ".." tokens) ||
    (!braces && Token.beginWithGroup .curly tokens) || Token.beginWithWord "as" tokens ||
    [",", ";", "?", "=>", "=", "+", "/", "%", "^", ">", "<=", "!=", "-=", "*=", "&=", "|=",
      "<<="].any (Token.beginWith · tokens)

/-- Reads the dots of a range and what stands behind them. -/
def rangeEnd (p : Phrases) (braces : Bool) : TokenReader ExpressionForm := do
  if ← seesMark "..." then failExpecting (DeclarationError.quoted "..=")
  else if ← mark? "..=" then
    let _ ← p.rightSide braces .range
  else
    mark ".."
    if !(← sees (endsRange braces)) then let _ ← p.rightSide braces .range
  return .range

/-- What may not stand behind a cast. -/
def afterCast? (tokens : List Token) : Option String :=
  if Token.beginWith "." tokens && !Token.beginWith ".." tokens then
    let behind := tokens.drop 1
    if Token.beginWithWord "await" behind then some (DeclarationError.quoted ".await")
    else if Token.beginWithName behind &&
        (Token.beginWithGroup .round (behind.drop 1) || Token.beginWith "::" (behind.drop 1)) then
      some "a method call"
    else some "a field access"
  else if Token.beginWith "?" tokens then some (DeclarationError.quoted "?")
  else if Token.beginWithGroup .square tokens then some "indexing"
  else if Token.beginWithGroup .round tokens then some "a function call"
  else none

/-- Reads one operator that binds at least as tightly as given, and its right side. -/
def operation (p : Phrases) (braces : Bool) (least : Binding) (left : ExpressionForm) :
    TokenReader (Option ExpressionForm) := do
  let tokens := (← get).tokens
  let allows (b : Binding) : Bool := least.rank ≤ b.rank
  if left = .range then return none
  else
    match Binding.operator? tokens with
    | some (marks, binding) =>
      if !allows binding then return none
      else if binding = .comparison && left = .comparison then throw .chainedComparison
      else
        mark marks
        let _ ← p.rightSide braces binding
        return some (if binding = .comparison then .comparison else .other)
    | none =>
      if allows .assignment && Binding.beginsAssignment tokens then
        mark "="
        let _ ← p.rightSide braces .assignment
        return some .other
      else if allows .range && Token.beginWith ".." tokens then
        return some (← p.rangeEnd braces)
      else if allows .cast && Token.beginWithWord "as" tokens then
        skip 1
        let _ ← p.type false
        match afterCast? (← get).tokens with
        | some what => throw (.castFollowedBy what)
        | none => return some .other
      else return none

/-- Reads operators that bind at least as tightly as given, with their right sides. -/
def operations (p : Phrases) (braces : Bool) (least : Binding) (left : ExpressionForm) :
    TokenReader ExpressionForm :=
  iterate (p.operation braces least) left

/-! ## Calls, fields and indices -/

/-- Passes over expressions in parentheses with commas between them. -/
def expressionList (p : Phrases) : TokenReader Unit :=
  group .round (commaSeparated do let _ ← p.expression true)

/-- Reads what stands behind a point. -/
def member (p : Phrases) : TokenReader Unit := do
  let named : TokenReader Unit := do
    if ← word? "await" then return
    else if ← sees Token.beginWithName then
      skip 1
      let hasArguments ← seesMark "::"
      if hasArguments then
        skip 2
        let _ ← p.arguments
      if hasArguments || (← seesGroup .round) then p.expressionList
    else failExpecting "identifier or integer"
  match (← get).tokens with
  | .number s :: _ =>
    let (_, endsWithPoint) ← FieldIndex.path s.toList
    skip 1
    if endsWithPoint then named
  | _ => named

/-- Reads one call, field, index or question behind an expression. -/
def trailer (p : Phrases) (e : ExpressionForm) : TokenReader (Option ExpressionForm) := do
  let tokens := (← get).tokens
  if Token.beginWithGroup .round tokens then
    p.expressionList
    return some .other
  else if Token.beginWith "." tokens && !Token.beginWith ".." tokens && e ≠ .range then
    skip 1
    p.member
    return some .other
  else if Token.beginWithGroup .square tokens then
    group .square do let _ ← p.expression true
    return some .other
  else if Token.beginWith "?" tokens && e ≠ .range then
    skip 1
    return some .other
  else return none

/-- Reads all of what stands behind an expression without an operator. -/
def trailers (p : Phrases) (e : ExpressionForm) : TokenReader ExpressionForm :=
  iterate p.trailer e

/-! ## Atoms -/

/-- Reads a field in the braces of a structure: whether more may follow. -/
def structureField (p : Phrases) : TokenReader Bool := do
  if ← mark? ".." then
    if !(← atEnd) then let _ ← p.expression true
    return false
  else
    let _ ← p.tags
    let isNamed ← sees Token.beginWithName
    fieldName
    if !isNamed || (← seesMark ":") then
      mark ":"
      let _ ← p.expression true
    return true

/-- Reads an expression that begins with a path. -/
def pathExpression (p : Phrases) (braces : Bool) : TokenReader ExpressionForm := do
  let path ← p.path true
  if !path.isQualified && path.isPlain && (← seesMark "!") && !(← seesMark "!=") then
    skip 1
    return .invocation (← anyGroup)
  else if braces && (← seesGroup .curly) then
    group .curly <| repeatWhile do
      if ← atEnd then return false
      if !(← p.structureField) then return false
      if ← atEnd then return false
      mark ","
      return true
    return .other
  else return .other

/-- Reads the content of square brackets: expressions with commas, or one with a length. -/
def array (p : Phrases) : TokenReader Unit := do
  if ← atEnd then return
  let _ ← p.expression true
  if ← mark? ";" then let _ ← p.expression true
  else if (← atEnd) || (← seesMark ",") then
    if ← mark? "," then commaSeparated do let _ ← p.expression true
  else failExpectingOneOf ([",", ";"].map DeclarationError.quoted)

/-- Reads the conditions and blocks of a choice behind its first word. -/
def choice (p : Phrases) : TokenReader Unit :=
  repeatWhile do
    let _ ← p.expression false
    p.block
    if ← word? "else" then
      if ← word? "if" then return true
      else if ← seesGroup .curly then
        p.block
        return false
      else failExpectingOneOf [DeclarationError.quoted "if", Bracket.curly.name]
    else return false

/-- Reads one case of a match. -/
def matchArm (p : Phrases) : TokenReader Unit := do
  let _ ← p.tags
  p.alternatives
  if ← word? "if" then let _ ← p.expression true
  mark "=>"
  let body ← p.bounded
  if body ≠ .block && !(← atEnd) then mark "," else let _ ← mark? ","

/-- Reads a closure: its parameters between bars, and its body. -/
def closure (p : Phrases) (braces : Bool) : TokenReader Unit := do
  let _ ← p.boundLifetimes?
  let _ ← word? "const"
  let _ ← word? "static"
  let _ ← word? "async"
  let _ ← word? "move"
  mark "|"
  repeatWhile do
    if ← seesMark "|" then return false
    let _ ← p.tags
    p.pattern
    if ← mark? ":" then let _ ← p.type true
    if ← seesMark "|" then return false
    mark ","
    return true
  mark "|"
  if ← mark? "->" then
    let _ ← p.type true
    p.block
  else let _ ← p.expression braces

/-- Whether tokens may go on with an expression. -/
def beginExpression (tokens : List Token) : Bool :=
  let marks (s : String) (but : List String) : Bool :=
    Token.beginWith s tokens && !but.any (Token.beginWith · tokens)
  Token.beginWithAnyWord tokens || Token.beginWithLiteral tokens ||
    Token.beginWithLifetime tokens ||
    [Bracket.round, .square, .curly].any (Token.beginWithGroup · tokens) ||
    marks "!" ["!="] || marks "-" ["-=", "->"] || marks "*" ["*="] || marks "|" ["|="] ||
    marks "&" ["&="] || marks ".." [] || marks "<" ["<=", "<<="] || marks "::" [] || marks "#" []

/-- Reads what leaves a loop: a label and a value, if they are there. -/
def leave (p : Phrases) (braces : Bool) : TokenReader Unit := do
  let tokens := (← get).tokens
  if Token.beginWithLifetime tokens && Token.beginWith ":" (tokens.drop 1) then
    let _ ← p.expression true
    throw .labelWithoutParentheses
  else
    if Token.beginWithLifetime tokens then skip 1
    let tokens := (← get).tokens
    if beginExpression tokens && (braces || !Token.beginWithGroup .curly tokens) then
      let _ ← p.expression true

/-- Reads an expression that begins with a word of its own. -/
def wordExpression (p : Phrases) (braces : Bool) (w : String) : TokenReader ExpressionForm := do
  skip 1
  match w with
  | "break" =>
    p.leave braces
    return .other
  | "continue" =>
    if ← sees Token.beginWithLifetime then skip 1
    return .other
  | "return" | "yield" =>
    if ← sees beginExpression then let _ ← p.expression true
    return .other
  | "become" =>
    let _ ← p.expression true
    return .other
  | "let" =>
    p.alternatives
    mark "="
    let left ← p.operand braces
    let _ ← p.operations braces .comparison left
    return .other
  | "if" =>
    p.choice
    return .block
  | "while" =>
    let _ ← p.expression false
    p.block
    return .block
  | "for" =>
    p.alternatives
    word "in"
    let _ ← p.expression false
    p.block
    return .block
  | "loop" | "unsafe" | "const" | "try" =>
    p.block
    return .block
  | "match" =>
    let _ ← p.expression false
    group .curly <| repeatWhile do
      if ← atEnd then return false
      p.matchArm
      return true
    return .block
  | "_" => return .other
  | _ => failExpecting "an expression"

/-- Reads a loop or a block behind a label. -/
def labelled (p : Phrases) (braces : Bool) : TokenReader ExpressionForm := do
  lifetime
  mark ":"
  match (← get).tokens with
  | .group .curly _ :: _ =>
    p.block
    return .block
  | .word w :: _ =>
    if ["while", "for", "loop"].contains w then p.wordExpression braces w
    else failExpecting "loop or block expression"
  | _ => failExpecting "loop or block expression"

/-- Whether tokens begin with parameters in angle brackets, and not with the type before a path. -/
def beginParameters (tokens : List Token) : Bool :=
  let behind := tokens.drop 1
  let twoBehind := tokens.drop 2
  Token.beginWith "<" tokens &&
    (Token.beginWith ">" behind || Token.beginWith "#" behind ||
      Token.beginWithWord "const" behind ||
      ((Token.beginWithLifetime behind || Token.beginWithName behind) &&
        ([">", ",", "="].any (Token.beginWith · twoBehind) ||
          (Token.beginWith ":" twoBehind && !Token.beginWith "::" twoBehind))))

/-- Whether tokens begin with a closure. -/
def beginClosure (tokens : List Token) : Bool :=
  let behind := tokens.drop 1
  Token.beginWith "|" tokens || Token.beginWithOneOf ["move", "static"] tokens ||
    (Token.beginWithWord "for" tokens && beginParameters behind) ||
    (Token.beginWithWord "const" tokens && !Token.beginWithGroup .curly behind) ||
    (Token.beginWithWord "async" tokens &&
      (Token.beginWith "|" behind || Token.beginWithWord "move" behind))

/-- Reads an expression that nothing stands before or behind. -/
def atom (p : Phrases) (braces : Bool) : TokenReader ExpressionForm := do
  let tokens := (← get).tokens
  let behind := tokens.drop 1
  if Token.beginWithLiteral tokens then
    literal
    return .other
  else if Token.beginWithWord "async" tokens &&
      (Token.beginWithGroup .curly behind ||
        (Token.beginWithWord "move" behind && Token.beginWithGroup .curly (behind.drop 1))) then
    skip 1
    let _ ← word? "move"
    p.block
    return .other
  else if beginClosure tokens then
    p.closure braces
    return .other
  else if Token.beginWithWord "builtin" tokens && Token.beginWith "#" behind then
    skip 2
    let _ ← name
    group .round passAll
    return .other
  else if Token.beginWithPart tokens || Token.beginWith "::" tokens || Token.beginWith "<" tokens ||
      (Token.beginWithWord "try" tokens &&
        (Token.beginWith "!" behind || Token.beginWith "::" behind)) then
    p.pathExpression braces
  else
    match tokens with
    | .group .round _ :: _ =>
      p.expressionList
      return .other
    | .group .square _ :: _ =>
      group .square p.array
      return .other
    | .group .curly _ :: _ =>
      p.block
      return .block
    | .lifetime :: _ => p.labelled braces
    | .word w :: _ =>
      if ["async", "try"].contains w && !Token.beginWithGroup .curly behind then
        failExpecting "an expression"
      else if ["break", "continue", "return", "become", "let", "if", "while", "for", "loop", "match",
          "yield", "unsafe", "const", "try", "_"].contains w then p.wordExpression braces w
      else failExpecting "an expression"
    | _ =>
      if Token.beginWith ".." tokens then p.rangeEnd braces else failExpecting "an expression"

/-! ## Operands and expressions -/

/-- Reads an expression without operators between operands. -/
def readOperand (p : Phrases) (braces : Bool) : TokenReader ExpressionForm := do
  let isTagged ← p.tags
  let tokens := (← get).tokens
  if Token.beginWith "&" tokens then
    skip 1
    let behind := tokens.drop 1
    if Token.beginWithWord "raw" behind && Token.beginWithOneOf ["mut", "const"] (behind.drop 1) then
      skip 2
    else let _ ← word? "mut"
    let _ ← p.operand braces
    return .other
  else if ["*", "!", "-"].any (Token.beginWith · tokens) then
    skip 1
    let _ ← p.operand braces
    return .other
  else
    let e ← p.trailers (← p.atom braces)
    if isTagged && e = .range then throw .tagOnRange else return e

/-- Reads what stands behind an operator: an operand and all operations that bind more tightly. -/
def readRightSide (p : Phrases) (braces : Bool) (binding : Binding) :
    TokenReader ExpressionForm := do
  iterate
    (fun right => do
      let before := (← get).tokens.length
      let next := Binding.ofFront (← get).tokens
      if binding.rank < next.rank || (next = .assignment && binding = .assignment) then
        let right ← p.operations braces next right
        return if (← get).tokens.length < before then some right else none
      else return none)
    (← p.readOperand braces)

/-- Reads an expression. -/
def readExpression (p : Phrases) (braces : Bool) : TokenReader ExpressionForm := do
  p.operations braces .none (← p.readOperand braces)

/-! ## Statements -/

/-- Whether tokens begin with an item. -/
def beginItem (tokens : List Token) : Bool :=
  let behind := tokens.drop 1
  let twoBehind := tokens.drop 2
  Token.beginWithOneOf ["pub", "extern", "use", "fn", "mod", "type", "struct", "enum", "trait",
    "impl", "macro"] tokens ||
    (Token.beginWithWord "crate" tokens && !Token.beginWith "::" behind) ||
    (Token.beginWithWord "static" tokens &&
      (Token.beginWithWord "mut" behind || Token.beginWithName behind)) ||
    (Token.beginWithWord "const" tokens &&
      !(Token.beginWithGroup .curly behind || Token.beginWithOneOf ["static", "move"] behind ||
        Token.beginWith "|" behind ||
        (Token.beginWithWord "async" behind &&
          !Token.beginWithOneOf ["unsafe", "extern", "fn"] twoBehind))) ||
    (Token.beginWithWord "unsafe" tokens && !Token.beginWithGroup .curly behind) ||
    (Token.beginWithWord "async" tokens && Token.beginWithOneOf ["unsafe", "extern", "fn"] behind) ||
    (Token.beginWithWord "union" tokens && Token.beginWithName behind) ||
    (Token.beginWithWord "auto" tokens && Token.beginWithWord "trait" behind) ||
    (Token.beginWithWord "default" tokens && Token.beginWithOneOf ["unsafe", "impl"] behind) ||
    (Token.beginWithName tokens && Token.beginWith "!" behind && Token.beginWithName twoBehind)

/-- Passes over an item: up to a semicolon, or to the braces of one that has a body. -/
def item : TokenReader Unit := do
  let endsWithMark ← sees fun tokens =>
    Token.beginWithOneOf ["use", "static", "type"] tokens ||
      (Token.beginWithWord "const" tokens && !Token.beginWithWord "fn" (tokens.drop 1))
  repeatWhile do
    if ← mark? ";" then return false
    else if ← atEnd then throw (.expectedMark ";")
    else if !endsWithMark && (← seesGroup .curly) then
      skip 1
      return false
    else
      skip 1
      return true

/-- Reads a binding behind its first word. -/
def localBinding (p : Phrases) : TokenReader Unit := do
  p.pattern
  if ← mark? ":" then let _ ← p.type true
  if ← mark? "=" then
    let before := (← get).tokens
    let _ ← p.expression true
    let read := before.length - (← get).tokens.length
    let endsInBraces := Token.beginWithGroup .curly (before.drop (read - 1))
    if !endsInBraces && (← seesWord "else") then
      skip 1
      p.block
  mark ";"

/-- Whether tokens begin with an expression that ends with its first block. -/
def beginBlock (tokens : List Token) : Bool :=
  Token.beginWithOneOf ["if", "while", "loop", "match", "unsafe"] tokens ||
    (Token.beginWithWord "for" tokens && !beginClosure tokens) ||
    (Token.beginWithOneOf ["try", "const"] tokens && Token.beginWithGroup .curly (tokens.drop 1)) ||
    Token.beginWithGroup .curly tokens || Token.beginWithLifetime tokens

/-- Whether tokens go on with a field, a call or a question. -/
def goesOn (tokens : List Token) : Bool :=
  (Token.beginWith "." tokens && !Token.beginWith ".." tokens) || Token.beginWith "?" tokens

/-- Reads an expression that ends with its first block, unless a field, a call or a question follows
the block. -/
def readBounded (p : Phrases) : TokenReader ExpressionForm := do
  let _ ← p.tags
  if ← sees beginBlock then
    let form ← p.atom true
    if ← sees goesOn then p.operations true .none (← p.trailers form) else return form
  else p.operations true .none (← p.readOperand true)

/-- Passes over a name in parts and an exclamation mark, and gives what stands behind. -/
def behindInvocation? : List Token → Option (List Token)
  | .word w :: .mark '!' _ :: rest => if Token.isPart w then some rest else none
  | .word w :: .mark ':' true :: .mark ':' _ :: rest =>
    if Token.isPart w then behindInvocation? rest else none
  | _ => none

/-- Whether tokens begin with the call of a text rule that is a statement by its braces. -/
def beginInvocation (tokens : List Token) : Bool :=
  match behindInvocation? tokens with
  | some rest => Token.beginWithGroup .curly rest && !goesOn (rest.drop 1)
  | none => false

/-- Reads an expression as a statement: whether a mark has to follow. -/
def expressionStatement (p : Phrases) : TokenReader Bool := do
  match ← if ← sees beginInvocation then p.pathExpression true else p.readBounded with
  | .block | .invocation .curly => return false
  | _ => return true

/-- Reads one statement: whether it has to be the last one. -/
def statement (p : Phrases) : TokenReader Bool := do
  let _ ← p.tags
  if ← word? "let" then
    p.localBinding
    return false
  else if ← sees beginItem then
    item
    return false
  else
    let isOpen ← p.expressionStatement
    if ← mark? ";" then return false else return isOpen

/-- Reads the content of a block. -/
def readStatements (p : Phrases) : TokenReader Unit :=
  repeatWhile do
    if ← mark? ";" then return true
    else if ← atEnd then return false
    else
      let isLast ← p.statement
      if isLast && !(← atEnd) then throw (.unexpected (DeclarationError.quoted ";"))
      return true

end CriteriaSearch.Phrases
