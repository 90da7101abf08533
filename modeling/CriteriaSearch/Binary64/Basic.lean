import CriteriaSearch.Binary64.Power

/-!
# Double-precision numbers

Finite numbers of the 64-bit binary floating-point format, as sign, significand and exponent.  The
canonical form is part of the type, so two values are equal exactly when they print the same, and
the two zeros are different values that compare equal.

`nearest` is the one rounding of the library: it takes an exact ratio of natural numbers to the
closest representable number, a tie to the even significand, and has no answer where the ratio is
beyond the largest finite number.  Sums, products and quotients are exact on the `scaled` view or
on ratios and rounded once.
-/

namespace CriteriaSearch

/-- A significand and exponent in the one form that stands for their value: the significand has 53
bits, or fewer at the least exponent. -/
def Binary64.Canonical (mantissa : Nat) (exponent : Int) : Prop :=
  mantissa < 0x20000000000000 ∧ -1074 ≤ exponent ∧ exponent ≤ 971 ∧
    (0x10000000000000 ≤ mantissa ∨ exponent = -1074)

instance (mantissa : Nat) (exponent : Int) : Decidable (Binary64.Canonical mantissa exponent) := by
  unfold Binary64.Canonical; infer_instance

/-- The number `± mantissa · 2 ^ exponent`. -/
structure Binary64 where
  negative : Bool
  mantissa : Nat
  exponent : Int
  canonical : Binary64.Canonical mantissa exponent
  deriving DecidableEq

namespace Binary64

/-- Zero with a sign. -/
def zero (negative : Bool) : Binary64 :=
  ⟨negative, 0, -1074, by decide⟩

/-- The largest finite number, or its negation. -/
def largest (negative : Bool) : Binary64 :=
  ⟨negative, 0x1fffffffffffff, 971, by decide⟩

instance : Inhabited Binary64 := ⟨zero false⟩

/-! ## Rounding -/

/-- The quotient rounded to the nearest integer, a tie to the even one. -/
def roundDiv (num den : Nat) : Nat :=
  let q := num / den
  let r := num % den
  if 2 * r < den then q
  else if den < 2 * r then q + 1
  else q + q % 2

/-- The ratio `num / den` divided by `2 ^ e`, as a ratio. -/
def scaleDown (num den : Nat) (e : Int) : Nat × Nat :=
  if 0 ≤ e then (num, den * pow2 e.toNat) else (num * pow2 (-e).toNat, den)

/-- The largest `k` with `2 ^ k ≤ num / den`, for a positive ratio. -/
def floorLog2 (num den : Nat) : Int :=
  let k : Int := (Nat.log2 num : Int) - Nat.log2 den
  let scaled := scaleDown num den k
  if scaled.2 ≤ scaled.1 then k else k - 1

/-- The number nearest to `± num / den`; none when that is beyond the finite range. -/
def nearest (negative : Bool) (num den : Nat) : Option Binary64 :=
  if num = 0 then some (zero negative)
  else
    let e := max (-1074) (floorLog2 num den - 52)
    let scaled := scaleDown num den e
    let m := roundDiv scaled.1 scaled.2
    if h : Canonical m e then some ⟨negative, m, e, h⟩
    else if h : Canonical (m / 2) (e + 1) then some ⟨negative, m / 2, e + 1, h⟩
    else none

/-! ## Views -/

/-- The magnitude as a ratio. -/
def ratio (x : Binary64) : Nat × Nat :=
  if 0 ≤ x.exponent then (x.mantissa * pow2 x.exponent.toNat, 1)
  else (x.mantissa, pow2 (-x.exponent).toNat)

/-- The value in units of the smallest positive number, `2 ^ -1074`. -/
def scaled (x : Binary64) : Int :=
  let magnitude : Int := x.mantissa * pow2 (x.exponent + 1074).toNat
  if x.negative then -magnitude else magnitude

/-- Equality of values: the two zeros are the same value. -/
def sameValue (x y : Binary64) : Bool :=
  x.scaled == y.scaled

/-- The order of values. -/
def compareValue (x y : Binary64) : Ordering :=
  compare x.scaled y.scaled

/-- Whether the value is zero, of either sign. -/
def isZero (x : Binary64) : Bool :=
  x.mantissa == 0

/-! ## Arithmetic -/

/-- The number nearest to an integer. -/
def ofInt (n : Int) : Binary64 :=
  (nearest (decide (n < 0)) n.natAbs 1).getD (largest (decide (n < 0)))

/-- The rounded sum; none when it is beyond the finite range.  A sum that is exactly zero is
negative only when both terms are. -/
def add? (x y : Binary64) : Option Binary64 :=
  let s := x.scaled + y.scaled
  if s = 0 then some (zero (x.negative && y.negative))
  else nearest (decide (s < 0)) s.natAbs (pow2 1074)

/-- The rounded product; none when it is beyond the finite range. -/
def mul? (x y : Binary64) : Option Binary64 :=
  nearest (x.negative != y.negative) (x.ratio.1 * y.ratio.1) (x.ratio.2 * y.ratio.2)

/-- The rounded quotient; none when it is beyond the finite range or the divisor is zero. -/
def div? (x y : Binary64) : Option Binary64 :=
  if y.isZero then none
  else nearest (x.negative != y.negative) (x.ratio.1 * y.ratio.2) (x.ratio.2 * y.ratio.1)

/-- The smaller of two values; the first of equal ones. -/
def min (x y : Binary64) : Binary64 :=
  if y.scaled < x.scaled then y else x

/-- The larger of two values; the first of equal ones. -/
def max (x y : Binary64) : Binary64 :=
  if x.scaled < y.scaled then y else x

/-- The sum from left to right, which starts at negative zero; none once a partial sum leaves the
finite range. -/
def sum? (xs : List Binary64) : Option Binary64 :=
  xs.foldlM add? (zero true)

/-- The sum divided by the number of terms. -/
def mean? (xs : List Binary64) : Option Binary64 := do
  (← sum? xs).div? (ofInt xs.length)

@[simp] theorem sameValue_refl (x : Binary64) : x.sameValue x = true := by
  simp [sameValue]

end Binary64

end CriteriaSearch
