import CriteriaSearch.Json.Basic
import CriteriaSearch.Binary64.Decimal
import CriteriaSearch.Text.Hexadecimal

/-!
# Tokens of JSON text

Splits a text into the punctuation, words, strings and numbers of JSON.  Each lexeme reader returns
what follows it, which is never longer than what it was given, so the whole split is a recursion on
the length of the rest.

A string or a number can follow the grammar and stand for nothing: a string with half of a surrogate
pair, a number beyond the finite range.

A number without fraction and exponent is an integer where 64 bits hold it.  Every other number is
read in two roundings: first the integer of its leading digits, as many as 64 bits hold, then its
product or quotient with the power of ten.  A minus zero is not an integer.
-/

namespace CriteriaSearch.Json

/-- A lexeme of JSON text: punctuation, a string, or a scalar that is no string, with what it stands
for. -/
inductive Token where
  | openArray
  | closeArray
  | openObject
  | closeObject
  | colon
  | comma
  | text (s : Option String)
  | scalar (value : Option Json)

/-! ## Numbers -/

/-- The product or quotient of an integer with a power of ten, rounded after the integer itself
was; none beyond the finite range.  Below the least power of ten the quotient is taken in steps, of
which the third leaves nothing. -/
def scaleByTen (significand : Nat) (exponent : Int) : Option Binary64 :=
  let start := Binary64.ofInt significand
  let power (k : Nat) : Option Binary64 := Binary64.nearest false (pow10 k) 1
  if start.isZero then some start
  else if 308 < exponent then none
  else if 0 ≤ exponent then (power exponent.toNat).bind start.mul?
  else
    let down (x : Binary64) (k : Nat) : Option Binary64 := (power k).bind x.div?
    if -308 ≤ exponent then down start (-exponent).toNat
    else if -616 ≤ exponent then (down start 308).bind fun x => down x (-exponent - 308).toNat
    else some (Binary64.zero false)

/-- Takes decimal digits into a 64-bit significand until one does not fit; returns the significand
and the digits left. -/
def takeDigits (significand : Nat) : List Char → Nat × List Char
  | [] => (significand, [])
  | d :: rest =>
    let next := significand * 10 + (d.toNat - '0'.toNat)
    if next < 0x10000000000000000 then takeDigits next rest else (significand, d :: rest)

/-- The number of a sign, integer digits, fraction digits and exponent. -/
def numberOf (negative : Bool) (whole fraction : List Char) (exponent : Option Int) :
    Option JsonNumber :=
  let (significand, dropped) := takeDigits 0 whole
  match fraction, exponent with
  | [], none =>
    if dropped.isEmpty && !(negative && (significand = 0 || 0x8000000000000000 < significand)) then
      some (.int (if negative then -(significand : Int) else significand))
    else
      (scaleByTen significand dropped.length).map fun x => .float { x with negative }
  | _, _ =>
    let (significand, rest) := takeDigits significand fraction
    let taken : Int := fraction.length - rest.length
    (scaleByTen significand (exponent.getD 0 + dropped.length - taken)).map fun x =>
      .float { x with negative }

/-- The exponent part after its mark, if the mark is there. -/
def lexExponent : List Char → Option (Option Int × List Char)
  | [] => some (none, [])
  | c :: rest =>
    if c = 'e' || c = 'E' then
      let (negative, body) := Binary64.splitSign rest
      let digits := body.takeWhile Char.isDigit
      if digits.isEmpty then none
      else
        let n : Int := Binary64.natOfDigits digits
        some (some (if negative then -n else n), body.dropWhile Char.isDigit)
    else some (none, c :: rest)

/-- Reads a number without its sign: what it stands for, and what follows it. -/
def lexUnsigned (negative : Bool) (s : List Char) : Option (Option JsonNumber × List Char) :=
  let whole := s.takeWhile Char.isDigit
  let rest := s.dropWhile Char.isDigit
  if whole.isEmpty || (whole.head? == some '0' && whole.length != 1) then none
  else
    let (fraction, rest, pointed) : List Char × List Char × Bool :=
      match rest with
      | '.' :: t => (t.takeWhile Char.isDigit, t.dropWhile Char.isDigit, true)
      | t => ([], t, false)
    if pointed && fraction.isEmpty then none
    else
      (lexExponent rest).map fun (exponent, rest) =>
        (numberOf negative whole fraction exponent, rest)

/-- Reads a number. -/
def lexNumber : List Char → Option (Option JsonNumber × List Char)
  | '-' :: rest => lexUnsigned true rest
  | s => lexUnsigned false s

/-! ## Strings -/

/-- The code unit that four hexadecimal digits name. -/
def codeUnit? (a b c d : Char) : Option Nat := do
  let digit := Text.hexValue?
  some ((← digit a) * 4096 + (← digit b) * 256 + (← digit c) * 16 + (← digit d))

/-- The character after a backslash, for the escapes of one character. -/
def shortEscape? (c : Char) : Option Char :=
  if c = '"' || c = '\\' || c = '/' then some c
  else if c = 'b' then some (Char.ofNat 8)
  else if c = 'f' then some (Char.ofNat 12)
  else if c = 'n' then some '\n'
  else if c = 'r' then some '\r'
  else if c = 't' then some '\t'
  else none

/-- What a string stands for as far as it is read: the characters, last first, while all of it stands
for characters, and the first half of a surrogate pair that waits for the second. -/
structure Draft where
  done : Option (List Char) := some []
  high : Option Nat := none

namespace Draft

/-- One more character; a half of a pair that is still waiting has none to come. -/
def push (d : Draft) (c : Char) : Draft :=
  match d.high with
  | none => ⟨d.done.map (c :: ·), none⟩
  | some _ => ⟨none, none⟩

/-- One more code unit. -/
def pushUnit (d : Draft) (unit : Nat) : Draft :=
  if 0xD800 ≤ unit && unit < 0xDC00 then
    ⟨if d.high.isSome then none else d.done, some unit⟩
  else if 0xDC00 ≤ unit && unit < 0xE000 then
    match d.high with
    | some high =>
      let char := Char.ofNat (0x10000 + (high - 0xD800) * 1024 + (unit - 0xDC00))
      ⟨d.done.map (char :: ·), none⟩
    | none => ⟨none, none⟩
  else d.push (Char.ofNat unit)

/-- The text of a string that is read to its end. -/
def text? (d : Draft) : Option String :=
  match d.high with
  | none => d.done.map fun cs => String.ofList cs.reverse
  | some _ => none

end Draft

/-- Reads the rest of a string after its opening quote: the text that it stands for, and what follows
it. -/
def lexString (d : Draft) : List Char → Option (Option String × List Char)
  | [] => none
  | '"' :: rest => some (d.text?, rest)
  | '\\' :: 'u' :: a :: b :: c :: e :: rest =>
    (codeUnit? a b c e).bind fun unit => lexString (d.pushUnit unit) rest
  | '\\' :: c :: rest => (shortEscape? c).bind fun char => lexString (d.push char) rest
  | c :: rest => if c.toNat < 32 then none else lexString (d.push c) rest

/-! ## Tokens -/

/-- Drops a given word from the front. -/
def dropWord? (word : List Char) (s : List Char) : Option (List Char) :=
  if word.isPrefixOf s then some (s.drop word.length) else none

/-- Reads the token that starts with `c`; `rest` follows `c`. -/
def lexToken (c : Char) (rest : List Char) : Option (Token × List Char) :=
  if c = '[' then some (.openArray, rest)
  else if c = ']' then some (.closeArray, rest)
  else if c.toNat = 0x7B then some (.openObject, rest)
  else if c.toNat = 0x7D then some (.closeObject, rest)
  else if c = ':' then some (.colon, rest)
  else if c = ',' then some (.comma, rest)
  else if c = '"' then (lexString {} rest).map fun (s, rest) => (.text s, rest)
  else if c = 'n' then (dropWord? "ull".toList rest).map fun rest => (.scalar (some .null), rest)
  else if c = 't' then (dropWord? "rue".toList rest).map fun rest => (.scalar (some (.bool true)), rest)
  else if c = 'f' then (dropWord? "alse".toList rest).map fun rest => (.scalar (some (.bool false)), rest)
  else (lexNumber (c :: rest)).map fun (n, rest) => (.scalar (n.map .num), rest)

/-- The blanks between tokens. -/
def isSpace (c : Char) : Bool :=
  c = ' ' || c = '\t' || c = '\n' || c = '\r'

/-- Reads all tokens.  `fuel` bounds their number. -/
def lexAll : Nat → List Char → Option (List Token)
  | _, [] => some []
  | 0, _ :: _ => none
  | fuel + 1, c :: rest =>
    if isSpace c then lexAll fuel rest
    else (lexToken c rest).bind fun (token, rest) => (lexAll fuel rest).map (token :: ·)

/-- The tokens of a text; every token takes a character, so the length bounds their number. -/
def tokens? (s : List Char) : Option (List Token) :=
  lexAll s.length s

end CriteriaSearch.Json
