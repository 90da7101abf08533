import CriteriaSearch.Declaration.FieldIndex
import CriteriaSearch.Declaration.TypeGrammar

/-!
# The grammar of patterns

A pattern is a name, a path, a literal, a range of those, or it is put together from patterns.
Patterns are read for where they end.
-/

namespace CriteriaSearch.Phrases

open TokenReader

/-- Reads a bound of a range in a pattern: whether there is one. -/
def patternBound (p : Phrases) : TokenReader Bool := do
  let tokens := (← get).tokens
  if tokens.isEmpty || ["|", "=", ",", ";"].any (Token.beginWith · tokens) ||
      (Token.beginWith ":" tokens && !Token.beginWith "::" tokens) ||
      Token.beginWithWord "if" tokens then
    return false
  else if Token.beginWithLiteral tokens then
    literal
    return true
  else if Token.beginWithPart tokens || Token.beginWith "::" tokens || Token.beginWith "<" tokens then
    let _ ← p.path true
    return true
  else if Token.beginWithWord "const" tokens then
    skip 1
    p.block
    return true
  else
    failExpectingOneOf (["literal", "identifier"] ++
      ["::", "<", "self", "Self", "super", "crate", "const"].map DeclarationError.quoted)

/-- Reads the dots of a range, and its upper bound: whether there is one. -/
def patternRange (p : Phrases) : TokenReader Bool := do
  let isOpen := !(← seesMark "..=") && !(← seesMark "...")
  skip (if isOpen then 2 else 3)
  let isBounded ← p.patternBound
  if !isOpen && !isBounded then failExpecting "range upper bound"
  return isBounded

/-- Takes the name or the index of a field. -/
def fieldName : TokenReader Unit := do
  match (← get).tokens with
  | .number s :: _ =>
    if FieldIndex.isFraction s.toList then failExpecting "identifier or integer"
    let _ ← FieldIndex.ofNumber s.toList
    skip 1
  | tokens =>
    if Token.beginWithName tokens then skip 1 else failExpecting "identifier or integer"

/-- Reads a field in the braces of a pattern. -/
def patternField (p : Phrases) : TokenReader Bool := do
  let _ ← p.tags
  if ← mark? ".." then return false
  let isBoxed ← word? "box"
  let isReference ← word? "ref"
  let isMutable ← word? "mut"
  let isPlain := !isBoxed && !isReference && !isMutable
  let isNamed ← sees Token.beginWithName
  if isPlain then fieldName else let _ ← name
  if (isPlain && (← seesMark ":")) || !isNamed then
    mark ":"
    p.alternatives
  return true

/-- Reads a pattern that begins with a path. -/
def pathPattern (p : Phrases) : TokenReader Unit := do
  let path ← p.path true
  let tokens := (← get).tokens
  if !path.isQualified && path.isPlain && Token.beginWith "!" tokens &&
      !Token.beginWith "!=" tokens then
    skip 1
    let _ ← anyGroup
  else if Token.beginWithGroup .curly tokens then
    group .curly <| repeatWhile do
      if ← atEnd then return false
      if !(← p.patternField) then return false
      if ← atEnd then return false
      mark ","
      return true
  else if Token.beginWithGroup .round tokens then
    group .round (commaSeparated p.alternatives)
  else if Token.beginWith ".." tokens then
    let _ ← p.patternRange

/-- What a pattern may begin with. -/
def patternBeginnings : List String :=
  ["identifier"] ++ ["::", "<", "_"].map DeclarationError.quoted ++ ["literal"] ++
    ["const", "ref", "mut", "&"].map DeclarationError.quoted ++
    [Bracket.round.name, Bracket.square.name] ++ ["..", "const"].map DeclarationError.quoted

/-- Whether a pattern that begins with a name is more than the name. -/
def beginPathPattern (tokens : List Token) : Bool :=
  let behind := tokens.drop 1
  (Token.beginWithName tokens &&
    (["::", "!", ".."].any (Token.beginWith · behind) || Token.beginWithGroup .curly behind ||
      Token.beginWithGroup .round behind)) ||
    (Token.beginWithWord "self" tokens && Token.beginWith "::" behind) ||
    Token.beginWith "::" tokens || Token.beginWith "<" tokens ||
    Token.beginWithOneOf ["Self", "super", "crate"] tokens

/-- Reads a pattern without alternatives. -/
def readPattern (p : Phrases) : TokenReader Unit := do
  let tokens := (← get).tokens
  if beginPathPattern tokens then p.pathPattern
  else if Token.beginWithWord "_" tokens then skip 1
  else if Token.beginWithWord "box" tokens then
    skip 1
    p.pattern
  else if Token.beginWith "-" tokens || Token.beginWithLiteral tokens ||
      Token.beginWithWord "const" tokens then
    let _ ← p.patternBound
    if ← seesMark ".." then let _ ← p.patternRange
  else if Token.beginWithName tokens || Token.beginWithOneOf ["ref", "mut", "self"] tokens then
    let _ ← word? "ref"
    let _ ← word? "mut"
    if !(← word? "self") then let _ ← name
    if ← mark? "@" then p.pattern
  else if Token.beginWith "&" tokens then
    skip 1
    let _ ← word? "mut"
    p.pattern
  else if Token.beginWithGroup .round tokens then group .round (commaSeparated p.alternatives)
  else if Token.beginWithGroup .square tokens then group .square (commaSeparated p.alternatives)
  else if Token.beginWith ".." tokens && !Token.beginWith "..." tokens then
    let _ ← p.patternRange
  else failExpectingOneOf patternBeginnings

end CriteriaSearch.Phrases
