import CriteriaSearch.Declaration.Token

/-!
# Reading tokens

Readers take tokens from the front of a list and say what they make of them, or what is wrong.  The
tokens of a group are read by a reader of their own; when it leaves some, the reading goes on behind
the group, and the first group of that kind is remembered.

Repetitions run at most as often as there are tokens, which is as often as a reader can take one.
-/

namespace CriteriaSearch

/-! ## The front of a list of tokens -/

namespace Token

/-- Whether tokens begin with marks, each joined to the next. -/
def beginWithMarks : List Char → List Token → Bool
  | [], _ => true
  | [c], .mark d _ :: _ => c == d
  | c :: marks, .mark d joined :: tokens => c == d && joined && beginWithMarks marks tokens
  | _, _ => false

/-- Whether tokens begin with the marks of a text. -/
def beginWith (s : String) (tokens : List Token) : Bool :=
  beginWithMarks s.toList tokens

/-- Whether tokens begin with a group. -/
def beginWithGroup (b : Bracket) : List Token → Bool
  | .group b' _ :: _ => b == b'
  | _ => false

/-- Whether tokens begin with a word. -/
def beginWithWord (w : String) : List Token → Bool
  | .word w' :: _ => w == w'
  | _ => false

/-- Whether tokens begin with one of some words. -/
def beginWithOneOf (ws : List String) : List Token → Bool
  | .word w :: _ => ws.contains w
  | _ => false

/-- Whether tokens begin with any word. -/
def beginWithAnyWord : List Token → Bool
  | .word _ :: _ => true
  | _ => false

/-- Words that are never names. -/
def reservedWords : List String := [
  "_", "abstract", "as", "async", "await", "become", "box", "break", "const", "continue", "crate",
  "do", "dyn", "else", "enum", "extern", "false", "final", "fn", "for", "if", "impl", "in", "let",
  "loop", "macro", "match", "mod", "move", "mut", "override", "priv", "pub", "ref", "return",
  "Self", "self", "static", "struct", "super", "trait", "true", "try", "type", "typeof", "unsafe",
  "unsized", "use", "virtual", "where", "while", "yield"]

/-- Whether tokens begin with a name. -/
def beginWithName : List Token → Bool
  | .word w :: _ => !reservedWords.contains w
  | _ => false

/-- Whether a word may be a part of a path: a name, or a word for a place. -/
def isPart (w : String) : Bool :=
  !reservedWords.contains w || ["self", "Self", "super", "crate"].contains w

/-- Whether tokens begin with a part of a path. -/
def beginWithPart : List Token → Bool
  | .word w :: _ => isPart w
  | _ => false

/-- Whether tokens begin with a lifetime. -/
def beginWithLifetime : List Token → Bool
  | .lifetime :: _ => true
  | _ => false

/-- Whether tokens begin with a literal: a text, a number, perhaps behind a minus sign, a truth value
or any other. -/
def beginWithLiteral : List Token → Bool
  | .text _ :: _ | .number _ :: _ | .literal :: _ => true
  | .mark '-' _ :: .number _ :: _ => true
  | tokens => beginWithOneOf ["true", "false"] tokens

mutual

/-- How many tokens a token is made of, itself and those inside it. -/
def weight : Token → Nat
  | .group _ content => totalWeight content + 1
  | _ => 1

/-- How many tokens there are, inside of groups as well. -/
def totalWeight : List Token → Nat
  | [] => 0
  | t :: rest => weight t + totalWeight rest

end

end Token

/-! ## Readers -/

/-- Tokens that are still to be read, and the brackets of the first group that went on where it had
to end. -/
structure TokenInput where
  tokens : List Token
  unfinished : Option Bracket := none

/-- Reads tokens. -/
abbrev TokenReader := StateT TokenInput (Except DeclarationError)

namespace TokenReader

/-- Whether the front of the tokens passes a test. -/
def sees (test : List Token → Bool) : TokenReader Bool :=
  return test (← get).tokens

/-- Whether the tokens begin with the marks of a text. -/
def seesMark (s : String) : TokenReader Bool :=
  sees (Token.beginWith s)

/-- Whether the tokens begin with a word. -/
def seesWord (w : String) : TokenReader Bool :=
  sees (Token.beginWithWord w)

/-- Whether the tokens begin with a group. -/
def seesGroup (b : Bracket) : TokenReader Bool :=
  sees (Token.beginWithGroup b)

/-- Whether no token is left. -/
def atEnd : TokenReader Bool :=
  sees List.isEmpty

/-- Takes tokens. -/
def skip (n : Nat) : TokenReader Unit :=
  modify fun input => { input with tokens := input.tokens.drop n }

/-- Takes all tokens. -/
def passAll : TokenReader Unit :=
  modify fun input => { input with tokens := [] }

/-- Fails for what stands in place of something else. -/
def failExpecting {α : Type} (what : String) : TokenReader α := do
  throw (.expected what (← atEnd))

/-- Fails for what stands in place of one of several things. -/
def failExpectingOneOf {α : Type} (whats : List String) : TokenReader α :=
  failExpecting (match whats with
    | [a, b] => a ++ " or " ++ b
    | whats => "one of: " ++ ", ".intercalate whats)

/-- Takes the marks of a text. -/
def mark (s : String) : TokenReader Unit := do
  if ← seesMark s then skip s.length else throw (.expectedMark s)

/-- Takes the marks of a text if they are there. -/
def mark? (s : String) : TokenReader Bool := do
  let there ← seesMark s
  if there then skip s.length
  return there

/-- Takes a word. -/
def word (w : String) : TokenReader Unit := do
  if ← seesWord w then skip 1 else failExpecting (DeclarationError.quoted w)

/-- Takes a word if it is there. -/
def word? (w : String) : TokenReader Bool := do
  let there ← seesWord w
  if there then skip 1
  return there

/-- Takes any word. -/
def anyWord : TokenReader String := do
  match (← get).tokens with
  | .word w :: _ =>
    skip 1
    return w
  | _ => failExpecting "ident"

/-- Takes a name. -/
def name : TokenReader String := do
  match (← get).tokens with
  | .word w :: _ =>
    if Token.reservedWords.contains w then
      failExpecting ("identifier, found keyword " ++ DeclarationError.quoted w)
    else
      skip 1
      return w
  | _ => failExpecting "identifier"

/-- Takes a lifetime. -/
def lifetime : TokenReader Unit := do
  if ← sees Token.beginWithLifetime then skip 1 else failExpecting "lifetime"

/-- Takes a literal. -/
def literal : TokenReader Unit := do
  if ← sees Token.beginWithLiteral then skip (if ← seesMark "-" then 2 else 1)
  else failExpecting "literal"

/-- Reads what is inside of a group. -/
def group {α : Type} (b : Bracket) (content : TokenReader α) : TokenReader α := do
  let input ← get
  match input.tokens with
  | .group b' inner :: rest =>
    if b = b' then
      let (a, left) ← content.run { tokens := inner, unfinished := input.unfinished }
      let open_ := if left.tokens.isEmpty then none else some b
      set ({ tokens := rest, unfinished := left.unfinished <|> open_ } : TokenInput)
      return a
    else failExpecting b.name
  | _ => failExpecting b.name

/-- Passes over a group of any kind. -/
def anyGroup : TokenReader Bracket := do
  match (← get).tokens with
  | .group b _ :: _ =>
    skip 1
    return b
  | _ => failExpecting "delimiter"

/-! ## Repetitions -/

/-- Repeats a step until it gives nothing more. -/
def iterate {σ : Type} (step : σ → TokenReader (Option σ)) (s : σ) : TokenReader σ := do
  go ((← get).tokens.length + 1) s
where
  /-- At most as many steps. -/
  go : Nat → σ → TokenReader σ
    | 0, s => return s
    | n + 1, s => do
      match ← step s with
      | some s => go n s
      | none => return s

/-- Repeats a step as long as it says so. -/
def repeatWhile (step : TokenReader Bool) : TokenReader Unit :=
  iterate (fun () => return if ← step then some () else none) ()

/-- Reads items with commas between them up to the end of the tokens. -/
def commaSeparated (item : TokenReader Unit) : TokenReader Unit :=
  repeatWhile do
    if ← atEnd then return false
    item
    if ← atEnd then return false
    mark ","
    return true

end TokenReader

end CriteriaSearch
