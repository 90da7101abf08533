import CriteriaSearch.Declaration.Phrases

/-!
# The grammar of types

A type is a path, with arguments in angle brackets or in parentheses behind its parts, or it is put
together from types: references, pointers, tuples, sequences, functions and sums of bounds.

A path is read as the name of its last part, with the first of the arguments there.  In an
expression, arguments in angle brackets stand behind a double colon, since a lone bracket compares.
-/

namespace CriteriaSearch

open TokenReader

/-- The arguments of a part of a path. -/
inductive PathArguments where
  | none
  /-- In angle brackets; the first one, where it is a type. -/
  | angle (first : Option FieldType)
  | round

/-- A path. -/
structure Path where
  name : String
  arguments : PathArguments := .none
  /-- Whether it has one part, with no colons before it. -/
  isSingle : Bool := true
  /-- Whether no part has arguments. -/
  isPlain : Bool := true
  /-- Whether a type in angle brackets stands before it. -/
  isQualified : Bool := false

namespace Path

/-- The path with one more part. -/
def extend (path : Path) (last : Path) : Path :=
  { path with
    name := last.name, arguments := last.arguments, isSingle := false
    isPlain := path.isPlain && last.isPlain }

/-- The path with arguments in parentheses behind its last part. -/
def called (path : Path) : Path :=
  { path with arguments := .round, isPlain := false }

/-- Whether arguments in parentheses may follow. -/
def awaitsCall (path : Path) (tokens : List Token) : Bool :=
  match path.arguments with
  | .none =>
    Token.beginWithGroup .round tokens ||
      (Token.beginWith "::" tokens && Token.beginWithGroup .round (tokens.drop 2))
  | _ => false

/-- The type that the path names. -/
def type (path : Path) : FieldType :=
  .named path.name (match path.arguments with
    | .angle first => first
    | _ => Option.none)

end Path

namespace Phrases

/-! ## Lifetimes and arguments -/

/-- Reads the lifetimes that a type is for, if there are any. -/
def boundLifetimes? (p : Phrases) : TokenReader Bool := do
  if ← word? "for" then
    mark "<"
    repeatWhile do
      if ← seesMark ">" then return false
      let _ ← p.tags
      lifetime
      if ← mark? ":" then
        repeatWhile do
          if ← sees Token.beginWithLifetime then
            skip 1
            mark? "+"
          else return false
      if ← seesMark ">" then return false
      mark ","
      return true
    mark ">"
    return true
  else return false

/-- The value of an argument: a literal or a block. -/
def constant (p : Phrases) : TokenReader Unit := do
  if ← sees Token.beginWithLiteral then literal else p.block

/-- Whether the tokens begin with the value of an argument. -/
def seesConstant : TokenReader Bool :=
  sees fun tokens => Token.beginWithLiteral tokens || Token.beginWithGroup .curly tokens

/-- Reads an argument in angle brackets: its type, where it is one. -/
def argument (p : Phrases) : TokenReader (Option FieldType) := do
  if ← sees (fun tokens =>
      Token.beginWithLifetime tokens && !Token.beginWith "+" (tokens.drop 1)) then
    skip 1
    return none
  else if ← seesConstant then
    p.constant
    return none
  else
    let form ← p.type true
    if form.isBindable then
      if ← mark? "=" then
        if ← seesConstant then p.constant else let _ ← p.type true
        return none
      if ← mark? ":" then
        repeatWhile do
          if (← seesMark ",") || (← seesMark ">") then return false
          let _ ← p.bound
          mark? "+"
        return none
    return some form.type

/-- Reads arguments in angle brackets: the type that is the first one. -/
def arguments (p : Phrases) : TokenReader (Option FieldType) := do
  mark "<"
  let (_, first) ← iterate
    (fun (more, first) => do
      if !more || (← seesMark ">") then return none
      let read ← p.argument
      let first := first <|> some read
      if ← seesMark ">" then return some (false, first)
      mark ","
      return some (true, first))
    (true, none)
  mark ">"
  return first.join

/-! ## Paths and bounds -/

/-- Reads a part of a path. -/
def part (p : Phrases) (inExpression : Bool) : TokenReader Path := do
  if ← sees (Token.beginWithOneOf ["super", "self", "crate", "try"]) then
    return { name := ← anyWord }
  else
    let name ← if ← seesWord "Self" then anyWord else name
    let tokens := (← get).tokens
    let opens := !inExpression && Token.beginWith "<" tokens && !Token.beginWith "<=" tokens &&
      !Token.beginWith "<<=" tokens
    let opensBehindColons := Token.beginWith "::" tokens && Token.beginWith "<" (tokens.drop 2)
    if opens || opensBehindColons then
      let _ ← mark? "::"
      return { name, arguments := .angle (← p.arguments), isPlain := false }
    else return { name }

/-- Reads further parts of a path; colons before parentheses belong to what follows. -/
def furtherParts (p : Phrases) (inExpression : Bool) (path : Path) :
    TokenReader Path :=
  iterate
    (fun path => do
      let tokens := (← get).tokens
      if Token.beginWith "::" tokens && !Token.beginWithGroup .round (tokens.drop 2) then
        skip 2
        return some (path.extend (← p.part inExpression))
      else return none)
    path

/-- Reads a path without a type before it. -/
def plainPath (p : Phrases) (inExpression : Bool) :
    TokenReader Path := do
  let leading ← mark? "::"
  let first ← p.part inExpression
  p.furtherParts inExpression { first with isSingle := !leading }

/-- Reads a path. -/
def path (p : Phrases) (inExpression : Bool) :
    TokenReader Path := do
  if ← mark? "<" then
    let _ ← p.type true
    if ← word? "as" then let _ ← p.plainPath false
    mark ">"
    mark "::"
    let first ← p.part inExpression
    let path : Path := { first with isSingle := false, isQualified := true }
    iterate
      (fun path => do
        if ← mark? "::" then return some (path.extend (← p.part inExpression))
        else return none)
      path
  else p.plainPath inExpression

/-- Reads what a function gives back: whether it is nothing, or a type in parentheses. -/
def result (p : Phrases) : TokenReader Bool := do
  if ← mark? "->" then
    match (← p.type false).type with
    | .parenthesized _ => return true
    | _ => return false
  else return true

/-- Reads arguments in parentheses and the result behind them. -/
def callArguments (p : Phrases) : TokenReader Bool := do
  let _ ← mark? "::"
  group .round (commaSeparated do let _ ← p.type true)
  p.result

/-- Reads a bound that is a trait. -/
def traitBound (p : Phrases) : TokenReader Unit := do
  let forLifetimes ← p.boundLifetimes?
  if ← seesGroup .square then group .square (word "const")
  else let _ ← word? "const"
  if (← mark? "?") && !forLifetimes then let _ ← p.boundLifetimes?
  let path ← p.plainPath false
  if path.awaitsCall (← get).tokens then let _ ← p.callArguments

/-- Reads a bound: whether it is a trait. -/
def readBound (p : Phrases) : TokenReader Bool := do
  if ← sees Token.beginWithLifetime then
    skip 1
    return false
  else
    if ← seesGroup .round then group .round p.traitBound else p.traitBound
    return true

/-- Reads bounds with plus signs between them: whether one of them is a trait. -/
def bounds (p : Phrases) (sums : Bool) : TokenReader Bool := do
  let (_, found) ← iterate
    (fun (more, found) => do
      if !more then return none
      let found := (← p.bound) || found
      if sums && (← seesMark "+") then
        skip 1
        let goesOn ← sees fun tokens =>
          Token.beginWithAnyWord tokens || Token.beginWith "::" tokens ||
            Token.beginWith "?" tokens || Token.beginWithLifetime tokens ||
            Token.beginWithGroup .round tokens || Token.beginWithGroup .square tokens
        return some (goesOn, found)
      else return some (false, found))
    (true, false)
  return found

/-! ## Types -/

/-- Reads a function type behind the lifetimes that it is for. -/
def functionType (p : Phrases) : TokenReader Unit := do
  let _ ← word? "unsafe"
  if ← word? "extern" then
    match (← get).tokens with
    | .text _ :: _ => skip 1
    | _ => pure ()
  word "fn"
  group .round <| commaSeparated do
    let _ ← p.tags
    let isNamed ← sees fun tokens =>
      (Token.beginWithName tokens || Token.beginWithOneOf ["_", "self"] tokens) &&
        Token.beginWith ":" (tokens.drop 1) && !Token.beginWith "::" (tokens.drop 1)
    if isNamed then skip 2
    if ← seesMark "..." then skip 3 else let _ ← p.type true
  let _ ← p.result

/-- Reads what is in the parentheses of a type. -/
def typeInParentheses (p : Phrases) : TokenReader TypeForm := do
  if ← atEnd then return { type := .other }
  else if ← sees Token.beginWithLifetime then
    if ← p.bounds true then return { type := .parenthesized .other }
    else throw .noTraitInObject
  else if ← seesMark "?" then
    let _ ← p.bound
    return { type := .other, isPath := true }
  else
    let first ← p.type true
    if ← mark? "," then
      commaSeparated do let _ ← p.type true
      return { type := .other }
    else return { first with type := .parenthesized first.type }

/-- Reads a sum of bounds behind the first one. -/
def furtherBounds (p : Phrases) : TokenReader TypeForm := do
  if ← mark? "+" then
    let goesOn ← sees fun tokens =>
      Token.beginWithAnyWord tokens || Token.beginWith "::" tokens || Token.beginWith "?" tokens ||
        Token.beginWithLifetime tokens || Token.beginWithGroup .round tokens
    if goesOn then let _ ← p.bounds true
  return { type := .other }

/-- Reads a type that begins with a path, perhaps behind the lifetimes that it is for. -/
def pathType (p : Phrases) (sums forLifetimes : Bool) : TokenReader TypeForm := do
  let path ← p.path false
  let (path, _) ← iterate
    (fun (path, goesOn) => do
      if goesOn && path.awaitsCall (← get).tokens then
        if ← p.callArguments then return some (← p.furtherParts false path.called, true)
        else return some (path.called, false)
      else return none)
    (path, true)
  if path.isQualified then return { type := path.type }
  else if path.isPlain && (← seesMark "!") && !(← seesMark "!=") then
    skip 1
    let _ ← anyGroup
    return { type := .other }
  else if forLifetimes || (sums && (← seesMark "+")) then
    if sums then p.furtherBounds else return { type := .other }
  else
    let isBindable := match path.arguments with
      | .round => false
      | _ => path.isSingle
    return { type := path.type, isPath := true, isBindable }

/-- What a type may begin with. -/
def typeBeginnings : List String :=
  [DeclarationError.quoted "for", Bracket.round.name] ++
    ["fn", "unsafe", "extern"].map DeclarationError.quoted ++ ["identifier"] ++
    ["::", "<", "dyn"].map DeclarationError.quoted ++ [Bracket.square.name] ++
    ["*", "&", "!", "impl", "_"].map DeclarationError.quoted ++ ["lifetime"]

/-- What may stand behind the lifetimes that a type is for. -/
def boundBeginnings : List String :=
  "identifier" ::
    ["fn", "unsafe", "extern", "super", "self", "Self", "crate"].map DeclarationError.quoted

/-- Reads a type behind lifetimes, if it is for any. -/
def typeFor (p : Phrases) (sums forLifetimes : Bool) : TokenReader TypeForm := do
  let tokens := (← get).tokens
  if Token.beginWithOneOf ["fn", "unsafe", "extern"] tokens then
    p.functionType
    return { type := .other }
  else if Token.beginWithPart tokens then p.pathType sums forLifetimes
  else if forLifetimes then failExpectingOneOf boundBeginnings
  else if Token.beginWithGroup .round tokens then
    let form ← group .round p.typeInParentheses
    if sums && form.isPath && (← seesMark "+") then p.furtherBounds
    else return { type := form.type }
  else if Token.beginWith "::" tokens || Token.beginWith "<" tokens then
    p.pathType sums forLifetimes
  else if Token.beginWithWord "dyn" tokens then
    skip 1
    let _ ← mark? "*"
    if ← p.bounds sums then return { type := .other } else throw .noTraitInObject
  else if Token.beginWithGroup .square tokens then
    group .square do
      let _ ← p.type true
      if ← mark? ";" then let _ ← p.expression true
    return { type := .sequence }
  else if Token.beginWith "*" tokens then
    skip 1
    let words := ["const", "mut"]
    if ← sees (Token.beginWithOneOf words) then skip 1
    else failExpectingOneOf (words.map DeclarationError.quoted)
    let _ ← p.type false
    return { type := .other }
  else if Token.beginWith "&" tokens then
    skip 1
    if ← sees Token.beginWithLifetime then skip 1
    let _ ← word? "mut"
    return { type := .reference (← p.type false).type }
  else if Token.beginWith "!" tokens || Token.beginWithWord "_" tokens then
    skip 1
    return { type := .other }
  else if Token.beginWithWord "impl" tokens then
    skip 1
    if ← p.bounds sums then return { type := .other } else throw .noTraitInBounds
  else if Token.beginWithLifetime tokens then
    if ← p.bounds true then return { type := .other } else throw .noTraitInObject
  else failExpectingOneOf typeBeginnings

/-- Reads a type. -/
def readType (p : Phrases) (sums : Bool) : TokenReader TypeForm := do
  p.typeFor sums (← p.boundLifetimes?)

end Phrases

end CriteriaSearch
