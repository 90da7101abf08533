import CriteriaSearch.Binary64.Basic
import CriteriaSearch.Text.Blank

/-!
# Decimal text of double-precision numbers

Reading rounds the decimal value once, to the nearest number.  Writing gives the fewest digits that
read back as the same number and, among those, the digits nearest to its exact value; values from
`0.00001` to below `10 ^ 16` are positional with at least one fraction digit, all others
scientific.
-/

namespace CriteriaSearch.Binary64

/-! ## Reading -/

/-- The number nearest to `± digits · 10 ^ exponent`; none when that is beyond the finite range.
The two early exits decide exponents far outside the format without computing the power. -/
def ofDecimal (negative : Bool) (digits : Nat) (exponent : Int) : Option Binary64 :=
  if digits = 0 then some (zero negative)
  else
    let position := exponent + (Nat.toDigits 10 digits).length
    if 400 < position then none
    else if position < -400 then some (zero negative)
    else if 0 ≤ exponent then nearest negative (digits * pow10 exponent.toNat) 1
    else nearest negative digits (pow10 (-exponent).toNat)

/-- The natural number that a list of decimal digits denotes. -/
def natOfDigits (s : List Char) : Nat :=
  s.foldl (fun n c => n * 10 + (c.toNat - '0'.toNat)) 0

/-- An optional sign in front: whether it is a minus, and the rest. -/
def splitSign : List Char → Bool × List Char
  | '-' :: rest => (true, rest)
  | '+' :: rest => (false, rest)
  | s => (false, s)

/-- The exponent part of a decimal text: absent, or `e` or `E`, an optional sign and digits, with
nothing after. -/
def readExponent? : List Char → Option Int
  | [] => some 0
  | c :: rest =>
    if c = 'e' || c = 'E' then
      let (negative, digits) := splitSign rest
      if digits.isEmpty || !digits.all Char.isDigit then none
      else some (if negative then -(natOfDigits digits : Int) else natOfDigits digits)
    else none

/-- Reads a whole text as a finite decimal number: an optional sign, digits with an optional point
before, between or after them, and an optional exponent. -/
def ofText? (s : List Char) : Option Binary64 := do
  let (negative, body) := splitSign s
  let whole := body.takeWhile Char.isDigit
  let afterWhole := body.dropWhile Char.isDigit
  let (fraction, rest) :=
    match afterWhole with
    | '.' :: t => (t.takeWhile Char.isDigit, t.dropWhile Char.isDigit)
    | t => ([], t)
  if whole.isEmpty && fraction.isEmpty then none
  else
    let exponent ← readExponent? rest
    ofDecimal negative (natOfDigits (whole ++ fraction)) (exponent - fraction.length)

/-! ## Shortest digits -/

/-- The number of decimal digits of a natural number; zero has none. -/
def digitCount (n : Nat) : Nat :=
  if n = 0 then 0 else (Nat.toDigits 10 n).length

/-- The largest `k` with `10 ^ k ≤ num / den`, for a positive ratio. -/
def floorLog10 (num den : Nat) : Int :=
  if den ≤ num then (digitCount (num / den) : Int) - 1
  else -(digitCount ((den + num - 1) / num - 1) : Int)

/-- The interval of ratios that round to a positive number, over one denominator. -/
structure Basin where
  low : Nat
  value : Nat
  high : Nat
  den : Nat
  closed : Bool

/-- The basin of a positive number: half a step up, and half a step down, which is half as far
where the significand is the least of its binade.  The ends belong to it when the significand is
even. -/
def basin (x : Binary64) : Basin :=
  let scale : Nat × Nat :=
    if 2 ≤ x.exponent then (pow2 (x.exponent - 2).toNat, 1) else (1, pow2 (2 - x.exponent).toNat)
  let down := if x.mantissa = 0x10000000000000 ∧ x.exponent ≠ -1074 then 1 else 2
  { low := (4 * x.mantissa - down) * scale.1
    value := 4 * x.mantissa * scale.1
    high := (4 * x.mantissa + 2) * scale.1
    den := scale.2
    closed := x.mantissa % 2 == 0 }

/-- Whether the ratio `num / den` lies in the basin. -/
def Basin.contains (b : Basin) (num den : Nat) : Bool :=
  let here := num * b.den
  if b.closed then b.low * den ≤ here && here ≤ b.high * den
  else b.low * den < here && here < b.high * den

/-- The decimal `digits · 10 ^ k` as a ratio. -/
def decimalRatio (digits : Nat) (k : Int) : Nat × Nat :=
  if 0 ≤ k then (digits * pow10 k.toNat, 1) else (digits, pow10 (-k).toNat)

/-- The multiple of `10 ^ k` in the basin that is nearest to its value, among the two neighbours of
the value; a tie goes to the even multiple. -/
def Basin.onGrid? (b : Basin) (k : Int) : Option Nat :=
  let unit := decimalRatio 1 k
  let below := (b.value * unit.2) / (b.den * unit.1)
  let hit (d : Nat) : Bool := let r := decimalRatio d k; b.contains r.1 r.2
  match hit below, hit (below + 1) with
  | false, false => none
  | true, false => some below
  | false, true => some (below + 1)
  | true, true =>
    let rest := (b.value * unit.2) % (b.den * unit.1)
    if 2 * rest < b.den * unit.1 then some below
    else if b.den * unit.1 < 2 * rest then some (below + 1)
    else some (below + below % 2)

/-- The fewest significant digits that read back as the positive number, as an integer and the
power of ten that multiplies it.  Seventeen digits always do. -/
def shortest (x : Binary64) : Nat × Int :=
  let b := x.basin
  let top := floorLog10 b.value b.den
  match (List.range 17).findSome? fun (n : Nat) =>
      let k := top - (n : Int)
      (b.onGrid? k).map fun d => (d, k) with
  | some found => found
  | none => (0, 0)

/-- Drops the trailing zeros of a digit string. -/
def dropTrailingZeros (digits : List Char) : List Char :=
  (digits.reverse.dropWhile (· == '0')).reverse

/-- The text of significant digits whose point stands `point` places after the first. -/
def layout (digits : List Char) (point : Int) : List Char :=
  if point ≤ -5 ∨ 16 < point then
    let e := point - 1
    let mark := if e < 0 then ['e', '-'] else ['e', '+']
    let significand :=
      match digits with
      | [] => []
      | [d] => [d]
      | d :: rest => d :: '.' :: rest
    significand ++ mark ++ Nat.toDigits 10 e.natAbs
  else if point ≤ 0 then
    '0' :: '.' :: (List.replicate (-point).toNat '0' ++ digits)
  else
    let whole := digits.take point.toNat
    let fraction := digits.drop point.toNat
    whole ++ List.replicate (point.toNat - whole.length) '0' ++
      '.' :: (if fraction.isEmpty then ['0'] else fraction)

/-- The text of a number. -/
def text (x : Binary64) : String :=
  let body :=
    if x.isZero then ['0', '.', '0']
    else
      let (d, k) := x.shortest
      let written := Nat.toDigits 10 d
      layout (dropTrailingZeros written) (k + written.length)
  String.ofList (if x.negative then '-' :: body else body)

end CriteriaSearch.Binary64
