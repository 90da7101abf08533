import CriteriaSearch.Binary64.Basic
import Mathlib.Algebra.Group.Nat.Defs
import Mathlib.Algebra.Order.Group.Unbundled.Int
import Mathlib.Algebra.Order.Ring.Int
import Mathlib.Tactic.Common
import Mathlib.Tactic.Linarith
import Mathlib.Tactic.Ring

/-!
# Integers as double-precision numbers

The number that stands for an integer is nearest to it: no other number is closer, and where two are
equally close it has the even significand (`isNearest_ofInt`).  A ratio is rounded on the grid of
its binade, and a number off that grid is too small to be closer.

Everything else follows from being nearest.  Rounding never turns the order of two integers round
(`IsNearest.scaled_le`).  All integers up to `2 ^ 53` are numbers (`exists_scaled_eq`), so that one
below shares its nearest number with no other integer (`IsNearest.scaled_ne`).
-/

namespace CriteriaSearch

lemma pow2_add (a b : Nat) : pow2 (a + b) = pow2 a * pow2 b :=
  Nat.pow_add 2 a b

namespace Binary64

/-! ## Rounding a quotient -/

/-- The rounded quotient is the exact one or the next, whichever is closer, and at the same distance
the even one. -/
lemma roundDiv_cases (num den : Nat) : ∃ up, roundDiv num den = num / den + up ∧
    (2 * (num % den) < den ∧ up = 0 ∨ den < 2 * (num % den) ∧ up = 1 ∨
      2 * (num % den) = den ∧ up ≤ 1 ∧ (num / den + up) % 2 = 0) := by
  unfold roundDiv
  dsimp only
  split
  · exact ⟨0, rfl, by omega⟩
  split
  · exact ⟨1, rfl, by omega⟩
  · exact ⟨num / den % 2, rfl, by omega⟩

/-- A multiple of a positive number is one of two neighbours, or at least the number beyond them. -/
lemma mul_cases (den : Nat) (q k : Int) : k * den ≤ q * den - den ∨
    k = q ∧ k * den = q * den ∨ k = q + 1 ∧ k * den = q * den + den ∨
      q * den + 2 * den ≤ k * den := by
  have hmono {a b : Int} (h : a ≤ b) : a * den ≤ b * den :=
    Int.mul_le_mul_of_nonneg_right h (Int.natCast_nonneg den)
  rcases Int.lt_or_le k q with hlt | hle
  · have hbelow := hmono (Int.le_sub_one_of_lt hlt)
    rw [Int.sub_mul, Int.one_mul] at hbelow
    exact .inl hbelow
  rcases Int.lt_or_le (q + 1) k with hlt | hle'
  · have habove := hmono (Int.add_one_le_of_lt hlt)
    rw [Int.add_assoc, Int.add_mul] at habove
    exact .inr (.inr (.inr habove))
  · obtain rfl | rfl : k = q ∨ k = q + 1 := by omega
    · exact .inr (.inl ⟨rfl, rfl⟩)
    · exact .inr (.inr (.inl ⟨rfl, by rw [Int.add_mul, Int.one_mul]⟩))

/-- Every other multiple of the divisor is further away than the rounded one, or as far where the
rounded one is even. -/
lemma roundDiv_nearest {den : Nat} (hden : 0 < den) (num : Nat) (k : Int) :
    ((roundDiv num den : Int) * den - num).natAbs < (k * den - num).natAbs ∨
      k = roundDiv num den ∨
      (((roundDiv num den : Int) * den - num).natAbs = (k * den - num).natAbs ∧
        roundDiv num den % 2 = 0) := by
  have hsplit : (num : Int) = (num / den : Nat) * den + (num % den : Nat) := by
    rw [← Int.natCast_mul, ← Int.natCast_add, Nat.mul_comm, Nat.div_add_mod]
  have hrest := Nat.mod_lt num hden
  have hother := mul_cases den (num / den : Nat) k
  obtain ⟨up, hround, hcases⟩ := roundDiv_cases num den
  have hmul : ((num / den + up : Nat) : Int) * den = (num / den : Nat) * den + up * den := by
    rw [Int.natCast_add, Int.add_mul]
  rw [hround, hmul]
  obtain rfl | rfl : up = 0 ∨ up = 1 := by omega
  · omega
  · omega

/-- Rounding stays above a multiple of the divisor. -/
lemma le_roundDiv {num den a : Nat} (hden : 0 < den) (h : a * den ≤ num) :
    a ≤ roundDiv num den := by
  have hquotient : a ≤ num / den := (Nat.le_div_iff_mul_le hden).2 h
  unfold roundDiv
  dsimp only
  split
  · exact hquotient
  split <;> omega

/-- Rounding stays below a multiple of the divisor. -/
lemma roundDiv_le {num den b : Nat} (hden : 0 < den) (h : num < b * den) :
    roundDiv num den ≤ b := by
  have hquotient : num / den < b := (Nat.div_lt_iff_lt_mul hden).2 h
  unfold roundDiv
  dsimp only
  split
  · omega
  split <;> omega

/-! ## Magnitudes -/

/-- The magnitude in units of the smallest positive number. -/
def magnitude (x : Binary64) : Nat :=
  x.mantissa * pow2 (x.exponent + 1074).toNat

lemma scaled_eq (x : Binary64) :
    x.scaled = if x.negative then -(x.magnitude : Int) else x.magnitude :=
  rfl

/-- A number that is not below a binade lies on the grid of that binade. -/
lemma exists_magnitude_eq {x : Binary64} {k : Nat} (h : 0x10000000000000 * pow2 k ≤ x.magnitude) :
    ∃ m, x.magnitude = m * pow2 k := by
  have hle : k ≤ (x.exponent + 1074).toNat := by
    by_contra hlt
    obtain ⟨j, rfl⟩ := Nat.exists_eq_add_of_lt (Nat.lt_of_not_le hlt)
    -- Otherwise even the largest significand would stay below the binade.
    have hmantissa := x.canonical.1
    have hpos := pow2_pos (x.exponent + 1074).toNat
    have hj := pow2_pos j
    rw [magnitude, Nat.add_assoc, pow2_add, pow2_succ] at h
    generalize pow2 (x.exponent + 1074).toNat = p at *
    generalize pow2 j = q at *
    have hbelow : x.mantissa * p < 0x20000000000000 * p :=
      Nat.mul_lt_mul_of_pos_right hmantissa hpos
    have habove : 0x20000000000000 * p ≤ 0x10000000000000 * (p * (q * 2)) := by
      have hpq : p ≤ p * q := Nat.le_mul_of_pos_right p hj
      rw [← Nat.mul_assoc p q 2]
      omega
    omega
  refine ⟨x.mantissa * pow2 ((x.exponent + 1074).toNat - k), ?_⟩
  rw [magnitude, Nat.mul_assoc, ← pow2_add, Nat.sub_add_cancel hle]

/-! ## Rounding an integer -/

lemma floorLog2_one {n : Nat} (hn : n ≠ 0) : floorLog2 n 1 = n.log2 := by
  have hscale : scaleDown n 1 n.log2 = (n, 1 * pow2 n.log2) := by
    rw [scaleDown, if_pos (Int.natCast_nonneg _), Int.toNat_natCast]
  have hlog : Nat.log2 1 = 0 := by decide
  have hle : 1 * pow2 n.log2 ≤ n := by
    rw [Nat.one_mul]
    exact Nat.log2_self_le hn
  rw [floorLog2, hlog]
  simp only [Nat.cast_zero, Int.sub_zero, hscale, if_pos hle]

/-- An integer is scaled to 53 digits by a shift up or down. -/
lemma scaleDown_one (n l : Nat) :
    scaleDown n 1 ((l : Int) - 52) = (n * pow2 (52 - l), pow2 (l - 52)) := by
  rw [scaleDown]
  split
  · have hup : 52 - l = 0 := by omega
    have hdown : ((l : Int) - 52).toNat = l - 52 := by omega
    rw [hup, hdown, Nat.one_mul]
    exact Prod.ext (Nat.mul_one n).symm rfl
  · have hdown : l - 52 = 0 := by omega
    have hup : (-((l : Int) - 52)).toNat = 52 - l := by omega
    rw [hup, hdown]
    rfl

/-- The shifted integer has 53 digits in front of the point. -/
lemma shifted_bounds {n : Nat} (hn : n ≠ 0) :
    0x10000000000000 * pow2 (n.log2 - 52) ≤ n * pow2 (52 - n.log2) ∧
      n * pow2 (52 - n.log2) < 0x20000000000000 * pow2 (n.log2 - 52) := by
  have hlow : pow2 n.log2 ≤ n := Nat.log2_self_le hn
  have hhigh : n < pow2 (n.log2 + 1) := Nat.lt_log2_self
  have hexponent : n.log2 + (52 - n.log2) = 52 + (n.log2 - 52) := by omega
  have hexponent' : n.log2 + 1 + (52 - n.log2) = 53 + (n.log2 - 52) := by omega
  constructor
  · calc 0x10000000000000 * pow2 (n.log2 - 52) = pow2 n.log2 * pow2 (52 - n.log2) := by
          rw [← pow2_add, hexponent, pow2_add]
          rfl
      _ ≤ n * pow2 (52 - n.log2) := Nat.mul_le_mul_right _ hlow
  · calc n * pow2 (52 - n.log2) < pow2 (n.log2 + 1) * pow2 (52 - n.log2) :=
          Nat.mul_lt_mul_of_pos_right hhigh (pow2_pos _)
      _ = 0x20000000000000 * pow2 (n.log2 - 52) := by
          rw [← pow2_add, hexponent', pow2_add]
          rfl

lemma nearest_eq (negative : Bool) {num den m : Nat} {e : Int} (hnum : num ≠ 0)
    (he : Max.max (-1074) (floorLog2 num den - 52) = e)
    (hm : roundDiv (scaleDown num den e).1 (scaleDown num den e).2 = m) :
    nearest negative num den =
      if h : Canonical m e then some ⟨negative, m, e, h⟩
      else if h : Canonical (m / 2) (e + 1) then some ⟨negative, m / 2, e + 1, h⟩
      else none := by
  subst he hm
  rw [nearest, if_neg hnum]

/-- **A positive integer is rounded on the grid of its binade.** -/
lemma exists_nearest_eq (negative : Bool) {n : Nat} (hn : n ≠ 0) (hlog : n.log2 < 900) :
    ∃ x m, nearest negative n 1 = some x ∧ x.negative = negative ∧
      m = roundDiv (n * pow2 (52 - n.log2)) (pow2 (n.log2 - 52)) ∧
      x.magnitude = m * pow2 (n.log2 + 1022) ∧ (m % 2 = 0 → x.mantissa % 2 = 0) := by
  have hexponent : Max.max (-1074) (floorLog2 n 1 - 52) = (n.log2 : Int) - 52 := by
    rw [floorLog2_one hn]
    omega
  obtain ⟨m, hm⟩ : ∃ m, roundDiv (n * pow2 (52 - n.log2)) (pow2 (n.log2 - 52)) = m := ⟨_, rfl⟩
  have hscaled : roundDiv (scaleDown n 1 (n.log2 - 52)).1 (scaleDown n 1 (n.log2 - 52)).2 = m := by
    rw [scaleDown_one, hm]
  obtain ⟨hlow, hhigh⟩ := shifted_bounds hn
  have hleast : 0x10000000000000 ≤ m := hm ▸ le_roundDiv (pow2_pos _) hlow
  have hmost : m ≤ 0x20000000000000 := hm ▸ roundDiv_le (pow2_pos _) hhigh
  rw [nearest_eq negative hn hexponent hscaled]
  by_cases hcanonical : Canonical m ((n.log2 : Int) - 52)
  · have hplace : ((n.log2 : Int) - 52 + 1074).toNat = n.log2 + 1022 := by omega
    refine ⟨⟨negative, m, _, hcanonical⟩, m, dif_pos hcanonical, rfl, hm.symm, ?_, id⟩
    rw [magnitude, hplace]
  · -- Rounding has carried into the next binade.
    have hcarry : m = 0x20000000000000 := by
      simp only [Canonical, not_and_or] at hcanonical
      omega
    have hplace : ((n.log2 : Int) - 52 + 1 + 1074).toNat = n.log2 + 1022 + 1 := by omega
    have hhalf : Canonical (m / 2) ((n.log2 : Int) - 52 + 1) := by
      subst hcarry
      exact ⟨by decide, by omega, by omega, .inl (by decide)⟩
    refine ⟨⟨negative, m / 2, _, hhalf⟩, m, by rw [dif_neg hcanonical, dif_pos hhalf], rfl,
      hm.symm, ?_, ?_⟩
    · rw [magnitude, hplace, pow2_succ]
      change m / 2 * (pow2 (n.log2 + 1022) * 2) = m * pow2 (n.log2 + 1022)
      rw [hcarry]
      omega
    · change m % 2 = 0 → m / 2 % 2 = 0
      omega

/-! ## The nearest number -/

/-- An integer in units of the smallest positive number. -/
def unitsOf (n : Int) : Int :=
  n * pow2 1074

/-- Whether a number is nearest to an integer: no other one is closer, and where another one is as
close it has the even significand. -/
structure IsNearest (x : Binary64) (n : Int) : Prop where
  le : ∀ y : Binary64, (x.scaled - unitsOf n).natAbs ≤ (y.scaled - unitsOf n).natAbs
  even : ∀ y : Binary64, (x.scaled - unitsOf n).natAbs = (y.scaled - unitsOf n).natAbs →
    y.scaled = x.scaled ∨ x.mantissa % 2 = 0

/-- The number with the other sign. -/
def negate (x : Binary64) : Binary64 :=
  { x with negative := !x.negative }

lemma scaled_negate (x : Binary64) : x.negate.scaled = -x.scaled := by
  have hmagnitude : x.negate.magnitude = x.magnitude := rfl
  rw [scaled_eq, scaled_eq, hmagnitude]
  cases hsign : x.negative <;> simp [negate, hsign]

lemma IsNearest.negate {x : Binary64} {n : Int} (h : x.IsNearest n) : x.negate.IsNearest (-n) := by
  have hunits : unitsOf (-n) = -unitsOf n := Int.neg_mul _ _
  have hmirror (y : Binary64) : (y.negate.scaled - unitsOf n).natAbs =
      (y.scaled - unitsOf (-n)).natAbs := by
    rw [scaled_negate, hunits]
    omega
  have hself : (x.negate.scaled - unitsOf (-n)).natAbs = (x.scaled - unitsOf n).natAbs := by
    rw [scaled_negate, hunits]
    omega
  constructor
  · intro y
    rw [hself, ← hmirror]
    exact h.le y.negate
  · intro y heq
    rw [hself, ← hmirror] at heq
    rcases h.even y.negate heq with hsame | heven
    · rw [scaled_negate] at hsame
      exact .inl (by rw [scaled_negate, ← hsame, Int.neg_neg])
    · exact .inr heven

section Grid

variable {n : Nat}

/-- Distances on the grid of an integer are those between its shifted form and multiples. -/
lemma natAbs_grid (n : Nat) (k : Int) :
    (k * pow2 (n.log2 + 1022) - unitsOf n).natAbs * pow2 (n.log2 - 52) =
      (k * pow2 (n.log2 - 52) - (n * pow2 (52 - n.log2) : Nat)).natAbs * pow2 (n.log2 + 1022) := by
  have hexponent : 1074 + (n.log2 - 52) = 52 - n.log2 + (n.log2 + 1022) := by omega
  have hpowers : (pow2 1074 : Int) * pow2 (n.log2 - 52) =
      pow2 (52 - n.log2) * pow2 (n.log2 + 1022) := by
    rw [← Int.natCast_mul, ← Int.natCast_mul, ← pow2_add, ← pow2_add, hexponent]
  have hproduct : (k * pow2 (n.log2 + 1022) - unitsOf n) * pow2 (n.log2 - 52) =
      (k * pow2 (n.log2 - 52) - (n * pow2 (52 - n.log2) : Nat)) * pow2 (n.log2 + 1022) := by
    rw [unitsOf, Int.sub_mul, Int.sub_mul, Int.mul_assoc (n : Int), hpowers, Int.natCast_mul]
    ring
  have habs := congrArg Int.natAbs hproduct
  rwa [Int.natAbs_mul, Int.natAbs_mul, Int.natAbs_natCast, Int.natAbs_natCast] at habs

/-- The least number of the binade of an integer is not above the integer. -/
lemma binade_le_unitsOf (hn : n ≠ 0) :
    0x10000000000000 * (pow2 (n.log2 + 1022) : Int) ≤ unitsOf n := by
  have hexponent : n.log2 + 1074 = 52 + (n.log2 + 1022) := by omega
  have hleast : pow2 52 = 0x10000000000000 := by decide
  have hpowers : 0x10000000000000 * pow2 (n.log2 + 1022) = pow2 n.log2 * pow2 1074 := by
    rw [← hleast, ← pow2_add, ← pow2_add, hexponent]
  have hself : pow2 n.log2 ≤ n := Nat.log2_self_le hn
  have hlow := Nat.mul_le_mul_right (pow2 1074) hself
  rw [← hpowers] at hlow
  rw [unitsOf, ← Int.natCast_mul]
  exact Int.ofNat_le.2 hlow

/-- On the grid of an integer the rounded point is nearest. -/
lemma natAbs_roundDiv_le {m : Nat}
    (hm : m = roundDiv (n * pow2 (52 - n.log2)) (pow2 (n.log2 - 52))) (k : Int) :
    (m * pow2 (n.log2 + 1022) - unitsOf n).natAbs ≤
        (k * pow2 (n.log2 + 1022) - unitsOf n).natAbs ∧
      ((m * pow2 (n.log2 + 1022) - unitsOf n).natAbs =
          (k * pow2 (n.log2 + 1022) - unitsOf n).natAbs → k = m ∨ m % 2 = 0) := by
  have hden := pow2_pos (n.log2 - 52)
  have hquotient := roundDiv_nearest hden (n * pow2 (52 - n.log2)) k
  rw [← hm] at hquotient
  have hrounded := natAbs_grid n m
  have hother := natAbs_grid n k
  constructor
  · refine Nat.le_of_mul_le_mul_right ?_ hden
    rw [hrounded, hother]
    refine Nat.mul_le_mul_right _ ?_
    rcases hquotient with hlt | rfl | ⟨heq, -⟩
    · exact hlt.le
    · exact le_rfl
    · exact heq.le
  · intro heq
    rw [heq, hother] at hrounded
    have hsame := Nat.eq_of_mul_eq_mul_right (pow2_pos _) hrounded
    rcases hquotient with hlt | hkm | ⟨-, hparity⟩
    · omega
    · exact .inl hkm
    · exact .inr hparity

/-- A number is on the grid of an integer or below its binade. -/
lemma scaled_cases (n : Nat) (y : Binary64) :
    (∃ k : Int, y.scaled = k * pow2 (n.log2 + 1022)) ∨
      y.scaled < 0x10000000000000 * pow2 (n.log2 + 1022) := by
  have hpos := pow2_pos (n.log2 + 1022)
  rw [scaled_eq]
  cases y.negative with
  | true =>
    right
    rw [if_pos rfl]
    omega
  | false =>
    rw [if_neg Bool.false_ne_true]
    by_cases hbelow : y.magnitude < 0x10000000000000 * pow2 (n.log2 + 1022)
    · right
      omega
    · obtain ⟨k, hk⟩ := exists_magnitude_eq (Nat.le_of_not_lt hbelow)
      exact .inl ⟨k, by rw [hk, Int.natCast_mul]⟩

/-- **A positive number that is rounded on the grid of an integer is nearest to it.** -/
lemma isNearest_of_magnitude {x : Binary64} {m : Nat} (hn : n ≠ 0) (hsign : x.negative = false)
    (hm : m = roundDiv (n * pow2 (52 - n.log2)) (pow2 (n.log2 - 52)))
    (hmagnitude : x.magnitude = m * pow2 (n.log2 + 1022))
    (heven : m % 2 = 0 → x.mantissa % 2 = 0) : x.IsNearest n := by
  have hscaled : x.scaled = m * pow2 (n.log2 + 1022) := by
    rw [scaled_eq, hsign, hmagnitude, if_neg Bool.false_ne_true, Int.natCast_mul]
  have hon := natAbs_roundDiv_le hm
  rw [← hscaled] at hon
  -- Off the grid a number is below the binade, so the least number of the binade is closer.
  have hoff {y : Binary64} (hy : y.scaled < 0x10000000000000 * pow2 (n.log2 + 1022)) :
      (x.scaled - unitsOf n).natAbs < (y.scaled - unitsOf n).natAbs := by
    have hleast := (hon 0x10000000000000).1
    have hbinade := binade_le_unitsOf hn
    omega
  constructor
  · intro y
    rcases scaled_cases n y with ⟨k, hk⟩ | hbelow
    · rw [hk]
      exact (hon k).1
    · exact (hoff hbelow).le
  · intro y heq
    rcases scaled_cases n y with ⟨k, hk⟩ | hbelow
    · rw [hk] at heq
      refine ((hon k).2 heq).imp (fun hkm => ?_) heven
      rw [hk, hkm, hscaled]
    · exact absurd heq (hoff hbelow).ne

end Grid

lemma scaled_zero : (zero false).scaled = 0 := by
  rw [scaled_eq, magnitude]
  simp [zero]

lemma isNearest_zero : (zero false).IsNearest 0 := by
  have hunits : unitsOf 0 = 0 := Int.zero_mul _
  constructor
  · intro y
    rw [scaled_zero, hunits]
    exact Nat.zero_le _
  · intro y heq
    rw [scaled_zero, hunits] at heq
    exact .inl (by rw [scaled_zero]; omega)

/-- **The number that stands for an integer is nearest to it.** -/
theorem isNearest_ofInt {n : Int} (h : n.natAbs < 0x10000000000000000) :
    (ofInt n).IsNearest n := by
  by_cases hzero : n = 0
  · subst hzero
    exact isNearest_zero
  have hne : n.natAbs ≠ 0 := by omega
  have hlog : n.natAbs.log2 < 900 := by
    have hlog' : n.natAbs.log2 < 64 := (Nat.log2_lt hne).2 h
    omega
  obtain ⟨x, m, hx, hsign, hm, hmagnitude, heven⟩ :=
    exists_nearest_eq (decide (n < 0)) hne hlog
  have hofInt : ofInt n = x := by
    rw [ofInt, hx, Option.getD_some]
  rw [hofInt]
  by_cases hnegative : n < 0
  · rw [decide_eq_true hnegative] at hsign
    have hpositive : x.negate.IsNearest n.natAbs :=
      isNearest_of_magnitude hne (by rw [negate, hsign, Bool.not_true]) hm hmagnitude heven
    have hback := hpositive.negate
    have hself : x.negate.negate = x := by
      rw [negate, negate, Bool.not_not]
    rwa [hself, show -(n.natAbs : Int) = n by omega] at hback
  · rw [decide_eq_false hnegative] at hsign
    have hpositive : x.IsNearest n.natAbs :=
      isNearest_of_magnitude hne hsign hm hmagnitude heven
    rwa [show (n.natAbs : Int) = n by omega] at hpositive

/-! ## Rounding and order -/

variable {x y : Binary64} {a b : Int}

lemma unitsOf_lt_unitsOf (h : a < b) : unitsOf a < unitsOf b :=
  Int.mul_lt_mul_of_pos_right h (Int.ofNat_lt.2 (pow2_pos 1074))

lemma unitsOf_le_unitsOf (h : a ≤ b) : unitsOf a ≤ unitsOf b :=
  Int.mul_le_mul_of_nonneg_right h (Int.natCast_nonneg _)

/-- Rounding never turns the order of two integers round. -/
theorem IsNearest.scaled_le (hx : x.IsNearest a) (hy : y.IsNearest b) (h : a < b) :
    x.scaled ≤ y.scaled := by
  have hunits := unitsOf_lt_unitsOf h
  have hleft := hx.le y
  have hright := hy.le x
  omega

lemma unitsOf_neg (n : Int) : unitsOf (-n) = -unitsOf n :=
  Int.neg_mul _ _

/-- Every natural number up to `2 ^ 53` is a number. -/
lemma exists_scaled_eq_natCast {n : Nat} (h : n ≤ 0x20000000000000) :
    ∃ x : Binary64, x.scaled = unitsOf n := by
  by_cases hzero : n = 0
  · subst hzero
    exact ⟨zero false, scaled_zero.trans (Int.zero_mul _).symm⟩
  rcases h.lt_or_eq with hlt | rfl
  · -- The significand is shifted up until it has 53 digits.
    have hlog : n.log2 < 53 := (Nat.log2_lt hzero).2 hlt
    have hplace : (-((52 - n.log2 : Nat) : Int) + 1074).toNat = n.log2 + 1022 := by omega
    have hunits : 52 - n.log2 + (n.log2 + 1022) = 1074 := by omega
    have hcanonical : Canonical (n * pow2 (52 - n.log2)) (-((52 - n.log2 : Nat) : Int)) := by
      obtain ⟨hlow, hhigh⟩ := shifted_bounds hzero
      have hone : pow2 (n.log2 - 52) = 1 := by
        rw [Nat.sub_eq_zero_of_le (Nat.le_of_lt_succ hlog)]
        rfl
      rw [hone, Nat.mul_one] at hlow hhigh
      exact ⟨hhigh, by omega, by omega, .inl hlow⟩
    refine ⟨⟨false, _, _, hcanonical⟩, ?_⟩
    rw [scaled_eq, magnitude, hplace, Nat.mul_assoc, ← pow2_add, hunits]
    exact Int.natCast_mul n _
  · refine ⟨⟨false, 0x10000000000000, 1, by decide⟩, ?_⟩
    have hplace : ((1 : Int) + 1074).toNat = 1074 + 1 := by decide
    rw [scaled_eq, magnitude, hplace, pow2_succ, unitsOf]
    generalize pow2 1074 = unit
    change ((0x10000000000000 * (unit * 2) : Nat) : Int) = (0x20000000000000 : Nat) * (unit : Int)
    omega

/-- Every integer up to `2 ^ 53` is a number. -/
lemma exists_scaled_eq {n : Int} (h : n.natAbs ≤ 0x20000000000000) :
    ∃ x : Binary64, x.scaled = unitsOf n := by
  obtain ⟨x, hx⟩ := exists_scaled_eq_natCast h
  rcases Int.natAbs_eq n with hsign | hsign
  · exact ⟨x, by rw [hx, ← hsign]⟩
  · refine ⟨x.negate, ?_⟩
    rw [scaled_negate, hx, ← unitsOf_neg, ← hsign]

/-- An integer below `2 ^ 53` shares its nearest number with no other integer. -/
theorem IsNearest.scaled_ne (hx : x.IsNearest a) (hy : y.IsNearest b)
    (ha : a.natAbs < 0x20000000000000) (h : a ≠ b) : x.scaled ≠ y.scaled := by
  intro hsame
  obtain ⟨u, hu⟩ := exists_scaled_eq ha.le
  have hself := hx.le u
  -- The neighbour of `a` on the side of `b` is a number too, and closer to `b`.
  rcases Int.lt_or_gt_of_ne h with hlt | hlt
  · obtain ⟨w, hw⟩ := exists_scaled_eq (n := a + 1) (by omega)
    have hcloser := hy.le w
    have hstep : unitsOf a < unitsOf (a + 1) := unitsOf_lt_unitsOf (Int.lt_succ a)
    have hreach : unitsOf (a + 1) ≤ unitsOf b := unitsOf_le_unitsOf hlt
    omega
  · obtain ⟨w, hw⟩ := exists_scaled_eq (n := a - 1) (by omega)
    have hcloser := hy.le w
    have hstep : unitsOf (a - 1) < unitsOf a := unitsOf_lt_unitsOf (by omega)
    have hreach : unitsOf b ≤ unitsOf (a - 1) := unitsOf_le_unitsOf (by omega)
    omega

end Binary64

end CriteriaSearch
