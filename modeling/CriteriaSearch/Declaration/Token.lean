import CriteriaSearch.Declaration.Basic
import CriteriaSearch.Text.Blank
import CriteriaSearch.Text.Hexadecimal

/-!
# Tokens of a declaration

Source text as words, literals and marks, with what stands in brackets as one token.  Blanks and
comments part tokens and count for nothing else, but a comment that documents something is a tag.

A mark is one character, and remembers whether another mark joins it, so that `::` is two marks and
`: :` is something else.
-/

namespace CriteriaSearch

/-- A token. -/
inductive Token where
  | word (s : String)
  | text (s : String)
  | number (s : String)
  | literal
  | lifetime
  | mark (c : Char) (joined : Bool)
  | group (bracket : Bracket) (content : List Token)

namespace Token

/-! ## Characters -/

/-- Characters that part tokens. -/
def isGap (c : Char) : Bool :=
  Text.isBlank c || c.toNat == 0x200E || c.toNat == 0x200F

/-- Characters that begin a word. -/
def startsWord (c : Char) : Bool :=
  c.isAlpha || c == '_' || (0x80 ≤ c.toNat && !isGap c)

/-- Characters of a word after the first one. -/
def continuesWord (c : Char) : Bool :=
  startsWord c || c.isDigit

/-- Characters that are marks. -/
def isMark (c : Char) : Bool :=
  "~!@#$%^&*-=+|;:,<.>/?'".toList.contains c

/-- Whether a text begins with a comment. -/
def startsComment : List Char → Bool
  | '/' :: '/' :: _ | '/' :: '*' :: _ => true
  | _ => false

/-! ## Gaps -/

/-- The rest behind a comment of one line, and the comment. -/
def lineComment (s : List Char) : List Char × List Char :=
  (s.takeWhile (· != '\n'), s.dropWhile (· != '\n'))

/-- The rest behind a comment in which as many comments are open, and the comment. -/
def blockComment? (open_ : Nat) : List Char → Option (List Char × List Char)
  | [] => none
  | '/' :: '*' :: rest =>
    (blockComment? (open_ + 1) rest).map fun p => ('/' :: '*' :: p.1, p.2)
  | '*' :: '/' :: rest =>
    if open_ ≤ 1 then some ([], rest)
    else (blockComment? (open_ - 1) rest).map fun p => ('*' :: '/' :: p.1, p.2)
  | c :: rest => (blockComment? open_ rest).map fun p => (c :: p.1, p.2)

/-- The rest behind a comment that documents nothing. -/
def afterComment? : List Char → Option (List Char)
  | '/' :: '/' :: '/' :: '/' :: rest => some (lineComment rest).2
  | '/' :: '/' :: '/' :: _ | '/' :: '/' :: '!' :: _ => none
  | '/' :: '/' :: rest => some (lineComment rest).2
  | '/' :: '*' :: '*' :: '/' :: rest => some rest
  | '/' :: '*' :: '*' :: '*' :: rest => (blockComment? 1 ('*' :: '*' :: rest)).map (·.2)
  | '/' :: '*' :: '*' :: _ | '/' :: '*' :: '!' :: _ => none
  | '/' :: '*' :: rest => (blockComment? 1 rest).map (·.2)
  | _ => none

/-- Drops blanks and comments in front, of which there are at most as many as steps. -/
def afterGaps (steps : Nat) (s : List Char) : List Char :=
  match steps with
  | 0 => s
  | steps + 1 =>
    match s with
    | [] => []
    | c :: rest =>
      if isGap c then afterGaps steps rest
      else
        match afterComment? s with
        | some rest => afterGaps steps rest
        | none => s

/-! ## Literals -/

/-- The character of hexadecimal digits, among which underscores count for nothing. -/
def charOfHex? (digits : List Char) : Option Char := do
  let n ← (digits.filter (· != '_')).foldlM (fun n c => (Text.hexValue? c).map (16 * n + ·)) 0
  if n.isValidChar then some (Char.ofNat n) else none

/-- Reads a text after its opening quote: its characters, and the rest after the closing one.
`skipping` drops blanks after an escaped end of line. -/
def textBody? (skipping : Bool) : List Char → Option (List Char × List Char)
  | [] => none
  | '"' :: rest => some ([], rest)
  | '\\' :: '\n' :: rest => textBody? true rest
  | '\\' :: '\r' :: '\n' :: rest => textBody? true rest
  | '\\' :: 'x' :: a :: b :: rest => do
    let c ← charOfHex? [a, b]
    let (s, rest) ← textBody? false rest
    return (c :: s, rest)
  | '\\' :: 'u' :: '\x7b' :: rest => unicodeEscape? [] rest
  | '\\' :: c :: rest => do
    let c ← match c with
      | 'n' => some '\n'
      | 'r' => some '\r'
      | 't' => some '\t'
      | '0' => some '\x00'
      | '\\' => some '\\'
      | '\'' => some '\''
      | '"' => some '"'
      | _ => none
    let (s, rest) ← textBody? false rest
    return (c :: s, rest)
  | c :: rest =>
    if skipping && [' ', '\t', '\n', '\r'].contains c then textBody? true rest
    else if c = '\r' then
      match rest with
      | '\n' :: _ => textBody? false rest
      | _ => none
    else do
      let (s, rest) ← textBody? false rest
      return (c :: s, rest)
where
  /-- Reads the digits of an escape up to the closing brace, and what follows. -/
  unicodeEscape? (digits : List Char) : List Char → Option (List Char × List Char)
    | [] => none
    | '\x7d' :: rest => do
      let c ← charOfHex? digits.reverse
      let (s, rest) ← textBody? false rest
      return (c :: s, rest)
    | c :: rest => unicodeEscape? (c :: digits) rest

/-- Reads a raw text after its opening quote, up to a quote with the given number of hashes. -/
def rawBody? (hashes : Nat) : List Char → Option (List Char × List Char)
  | [] => none
  | c :: rest =>
    if c = '"' && (rest.take hashes == List.replicate hashes '#') then
      some ([], rest.drop hashes)
    else (rawBody? hashes rest).map fun r => (c :: r.1, r.2)

/-- Drops the word right behind a literal, which names its type. -/
def afterSuffix : List Char → List Char
  | c :: rest => if startsWord c then rest.dropWhile continuesWord else c :: rest
  | [] => []

/-- Reads a literal behind letters that mark its kind: a text in plain or raw quotes. -/
def quoted? (raw : Bool) (s : List Char) : Option (List Char × List Char) :=
  let hashes := if raw then (s.takeWhile (· == '#')).length else 0
  let body := match s.drop hashes with
    | '"' :: rest => if raw then rawBody? hashes rest else textBody? false rest
    | _ => none
  body.map fun q => (q.1, afterSuffix q.2)

/-- Digits and the underscores among them. -/
def isDigitOrGap (c : Char) : Bool :=
  c.isDigit || c == '_'

/-- The point of a number with the digits behind it. -/
def fraction : List Char → List Char
  | '.' :: c :: rest =>
    if c == '.' || startsWord c then [] else '.' :: (c :: rest).takeWhile isDigitOrGap
  | ['.'] => ['.']
  | _ => []

/-- The exponent of a number. -/
def exponent : List Char → List Char
  | e :: rest =>
    let sign := match rest with
      | '+' :: _ => ['+']
      | '-' :: _ => ['-']
      | _ => []
    let digits := (rest.drop sign.length).takeWhile isDigitOrGap
    if (e == 'e' || e == 'E') && digits.any Char.isDigit then e :: sign ++ digits else []
  | [] => []

/-- Splits a number off a text that begins with a digit. -/
def splitNumber (s : List Char) : List Char × List Char :=
  let whole := s.takeWhile isDigitOrGap
  let s := s.drop whole.length
  let fraction := fraction s
  let s := s.drop fraction.length
  let exponent := exponent s
  let s := s.drop exponent.length
  let suffix := s.take (s.length - (afterSuffix s).length)
  (whole ++ fraction ++ exponent ++ suffix, afterSuffix s)

/-! ## Lexemes -/

/-- A token outside of brackets, or a single bracket. -/
inductive Lexeme where
  | leaf (t : Token)
  | opening (b : Bracket)
  | closing (b : Bracket)

/-- Reads a lexeme that begins with an apostrophe, after it: a character or a lifetime. -/
def afterApostrophe? : List Char → Option (Lexeme × List Char)
  | '\\' :: _ :: rest =>
    some (.leaf .literal, afterSuffix ((rest.dropWhile (· != '\'')).drop 1))
  | _ :: '\'' :: rest => some (.leaf .literal, afterSuffix rest)
  | 'r' :: '#' :: c :: rest =>
    if startsWord c then some (.leaf .lifetime, rest.dropWhile continuesWord) else none
  | c :: rest =>
    if startsWord c then some (.leaf .lifetime, rest.dropWhile continuesWord) else none
  | [] => none

/-- Reads a word, or a literal whose quotes letters stand in front of. -/
def wordOrQuoted? (s : List Char) : Option (Lexeme × List Char) :=
  let letters := s.takeWhile continuesWord
  let rest := s.dropWhile continuesWord
  let plain : Lexeme × List Char := (.leaf (.word (String.ofList letters)), rest)
  match letters, rest with
  | ['r'], '#' :: c :: more =>
    if startsWord c then
      some (.leaf (.word (String.ofList ('r' :: '#' :: c :: more.takeWhile continuesWord))),
        more.dropWhile continuesWord)
    else (quoted? true rest).map fun q => (.leaf (.text (String.ofList q.1)), q.2)
  | ['r'], '"' :: _ => (quoted? true rest).map fun q => (.leaf (.text (String.ofList q.1)), q.2)
  | ['b'], '"' :: _ | ['c'], '"' :: _ => (quoted? false rest).map fun q => (.leaf .literal, q.2)
  | ['b', 'r'], '"' :: _ | ['b', 'r'], '#' :: _ | ['c', 'r'], '"' :: _ | ['c', 'r'], '#' :: _ =>
    (quoted? true rest).map fun q => (.leaf .literal, q.2)
  | ['b'], '\'' :: more => afterApostrophe? more
  | _, _ => some plain

/-- The tag of a comment that documents something. -/
def documentation (inner : Bool) (comment : List Char) : List Lexeme :=
  let mark (c : Char) : Lexeme := .leaf (.mark c false)
  mark '#' :: (if inner then [mark '!'] else []) ++
    [.opening .square, .leaf (.word "doc"), mark '=', .leaf (.text (String.ofList comment)),
      .closing .square]

/-- Reads the lexemes in front of a text that begins with no gap: one, or those of a tag. -/
def next? : List Char → Option (List Lexeme × List Char)
  | [] => none
  | '(' :: rest => some ([.opening .round], rest)
  | ')' :: rest => some ([.closing .round], rest)
  | '[' :: rest => some ([.opening .square], rest)
  | ']' :: rest => some ([.closing .square], rest)
  | '\x7b' :: rest => some ([.opening .curly], rest)
  | '\x7d' :: rest => some ([.closing .curly], rest)
  | '/' :: '/' :: kind :: rest =>
    let (comment, rest) := lineComment rest
    some (documentation (kind == '!') comment, rest)
  | '/' :: '*' :: kind :: rest =>
    (blockComment? 1 rest).map fun p => (documentation (kind == '!') p.1, p.2)
  | '"' :: rest =>
    (quoted? false ('"' :: rest)).map fun q => ([.leaf (.text (String.ofList q.1))], q.2)
  | '\'' :: rest => (afterApostrophe? rest).map fun p => ([p.1], p.2)
  | c :: rest =>
    if startsWord c then (wordOrQuoted? (c :: rest)).map fun p => ([p.1], p.2)
    else if c.isDigit then
      let (digits, rest) := splitNumber (c :: rest)
      some ([.leaf (.number (String.ofList digits))], rest)
    else if isMark c then
      some ([.leaf (.mark c (rest.head?.any isMark && !startsComment rest))], rest)
    else none

/-- The lexemes of a text, if it is made of lexemes.  Every lexeme takes one character at least. -/
def lexemes? (s : List Char) : Option (List Lexeme) :=
  let s' := afterGaps s.length s
  if s'.isEmpty then some []
  else
    match next? s' with
    | none => none
    | some (xs, rest) =>
      if rest.length < s.length then (lexemes? rest).map (xs ++ ·) else none
termination_by s.length

/-! ## Brackets -/

/-- An open bracket and the tokens behind it, last first. -/
structure Frame where
  bracket : Bracket
  content : List Token := []

/-- Adds a token. -/
def Frame.push (f : Frame) (t : Token) : Frame :=
  { f with content := t :: f.content }

/-- The open brackets, the innermost first, after one more lexeme. -/
def nest? (frames : List Frame) (x : Lexeme) : Option (List Frame) :=
  match x, frames with
  | .leaf t, f :: outer => some (f.push t :: outer)
  | .opening b, frames => some ({ bracket := b } :: frames)
  | .closing b, f :: g :: outer =>
    if f.bracket = b then some (g.push (.group b f.content.reverse) :: outer) else none
  | _, _ => none

/-- The tokens of a text, if its brackets match. -/
def ofText? (s : String) : Option (List Token) := do
  let outermost : Frame := { bracket := .curly }
  match ← (← lexemes? s.toList).foldlM nest? [outermost] with
  | [f] => some f.content.reverse
  | _ => none

end Token

end CriteriaSearch
