import CriteriaSearch.Proofs.NearestNumbers
import CriteriaSearch.Store.Evaluation
import Mathlib.Data.Int.Order.Basic
import Mathlib.Tactic.Common

/-!
# Filters on integers

Stored and searched numbers are compared as double-precision numbers, integers too.  A filter on an
integer therefore decides as the numbers compare that are nearest to the two integers
(`Filter.comparesAs_scaled`), which is the exact answer unless two different integers share their
nearest number (`Filter.compares_integers_as_nearest`).  Below `2 ^ 53` none do; from there on
neighbours are found under each other's name (`Filter.not_always_exact_on_integers`).
-/

namespace CriteriaSearch

/-- Whether an integer is signed or unsigned of 64 bits. -/
def JsonNumber.InRange (n : Int) : Prop :=
  -0x8000000000000000 ≤ n ∧ n < 0x10000000000000000

lemma JsonNumber.InRange.natAbs_lt {n : Int} (h : InRange n) :
    n.natAbs < 0x10000000000000000 := by
  obtain ⟨hlower, hupper⟩ := h
  omega

namespace RangeBound

/-- What a bound says of a value and a limit. -/
def Relates : RangeBound → Int → Int → Prop
  | gt, n, limit => limit < n
  | gte, n, limit => limit ≤ n
  | lt, n, limit => n < limit
  | lte, n, limit => n ≤ limit

instance (bound : RangeBound) (n limit : Int) : Decidable (bound.Relates n limit) := by
  cases bound <;> unfold Relates <;> infer_instance

lemma admits_compare (bound : RangeBound) (n limit : Int) :
    bound.admits (compare n limit) = decide (bound.Relates n limit) := by
  rw [Bool.eq_iff_iff, decide_eq_true_iff]
  cases bound with
  | gt => rw [admits, beq_iff_eq, compare_gt_iff_gt, Relates]
  | gte => rw [admits, bne_iff_ne, compare_ge_iff_ge, Relates]
  | lt => rw [admits, beq_iff_eq, compare_lt_iff_lt, Relates]
  | lte => rw [admits, bne_iff_ne, compare_le_iff_le, Relates]

end RangeBound

namespace Filter

/-- Whether the filters on a field that name a limit decide as two integers compare. -/
structure ComparesAs (id : String) (body : Record) (field : String) (limit m n : Int) : Prop where
  term : ∀ library,
    (term field (.num (.int limit))).holds library id body = .ok (decide (m = n))
  range : ∀ library bound, (range field [(bound, .num (.int limit))]).holds library id body =
    .ok (decide (bound.Relates m n))

variable {id : String} {a b m n p q : Int} {body : Record} {field : String}

/-- Filters on an integer decide as the numbers compare that stand for the integers. -/
lemma comparesAs_scaled (id : String) (h : body.resolve? field = some (.num (.int a))) (b : Int) :
    ComparesAs id body field b (Binary64.ofInt a).scaled (Binary64.ofInt b).scaled := by
  constructor
  · intro library
    rw [holds, fieldHolds, h]
    rfl
  · intro library bound
    rw [holds, fieldHolds, h, ← RangeBound.admits_compare]
    exact congrArg Except.ok (Bool.and_true _)

/-- The filters tell two pairs of integers apart just where these compare differently. -/
lemma ComparesAs.iff (h : ComparesAs id body field b m n) :
    ComparesAs id body field b p q ↔ ((m = n ↔ p = q) ∧ (m < n ↔ p < q)) := by
  constructor
  · intro h'
    have hterm := (h.term .unlimited).symm.trans (h'.term .unlimited)
    have hlt := (h.range .unlimited .lt).symm.trans (h'.range .unlimited .lt)
    exact ⟨decide_eq_decide.1 (Except.ok.inj hterm), decide_eq_decide.1 (Except.ok.inj hlt)⟩
  · rintro ⟨heq, hlt⟩
    constructor
    · intro library
      rw [h.term, decide_eq_decide.2 heq]
    · intro library bound
      have hrelates : bound.Relates m n ↔ bound.Relates p q := by
        cases bound <;> unfold RangeBound.Relates <;> omega
      rw [h.range, decide_eq_decide.2 hrelates]

/-- **Filters on integers compare the nearest double-precision numbers.**  Rounding keeps the order,
so that the answer is the exact one unless two different integers have the same nearest number, and
no integer below `2 ^ 53` shares its nearest number with another. -/
theorem compares_integers_as_nearest (id : String) (ha : JsonNumber.InRange a)
    (hb : JsonNumber.InRange b) (h : body.resolve? field = some (.num (.int a))) :
    ∃ x y : Binary64, x.IsNearest a ∧ y.IsNearest b ∧
      ComparesAs id body field b x.scaled y.scaled ∧
      (ComparesAs id body field b a b ↔ a = b ∨ x.scaled ≠ y.scaled) ∧
      (a.natAbs < 0x20000000000000 ∨ b.natAbs < 0x20000000000000 →
        ComparesAs id body field b a b) ∧
      (a ≤ b → x.scaled ≤ y.scaled) ∧ (b ≤ a → y.scaled ≤ x.scaled) := by
  have hx := Binary64.isNearest_ofInt ha.natAbs_lt
  have hy := Binary64.isNearest_ofInt hb.natAbs_lt
  have hrounded := comparesAs_scaled id h b
  have hbelow (hle : a ≤ b) : (Binary64.ofInt a).scaled ≤ (Binary64.ofInt b).scaled := by
    rcases hle.eq_or_lt with rfl | hlt
    · exact le_rfl
    · exact hx.scaled_le hy hlt
  have habove (hle : b ≤ a) : (Binary64.ofInt b).scaled ≤ (Binary64.ofInt a).scaled := by
    rcases hle.eq_or_lt with rfl | hlt
    · exact le_rfl
    · exact hy.scaled_le hx hlt
  have hexact : ComparesAs id body field b a b ↔
      a = b ∨ (Binary64.ofInt a).scaled ≠ (Binary64.ofInt b).scaled := by
    rw [hrounded.iff]
    constructor
    · omega
    · rintro (rfl | hne)
      · exact ⟨by omega, by omega⟩
      · exact ⟨by omega, by omega⟩
  refine ⟨_, _, hx, hy, hrounded, hexact, ?_, hbelow, habove⟩
  intro hsmall
  rw [hexact, or_iff_not_imp_left]
  intro hne
  rcases hsmall with hsmall | hsmall
  · exact hx.scaled_ne hy hsmall hne
  · exact (hy.scaled_ne hx hsmall (Ne.symm hne)).symm

/-- The least two neighbours that share their nearest number, `2 ^ 53 + 1` and `2 ^ 53`. -/
theorem compares_integers_as_nearest_boundary :
    JsonNumber.InRange 0x20000000000001 ∧ JsonNumber.InRange 0x20000000000000 ∧
      ∃ x y : Binary64, x.IsNearest 0x20000000000001 ∧ y.IsNearest 0x20000000000000 ∧
        ComparesAs "a" [("n", .num (.int 0x20000000000001))] "n" 0x20000000000000
          x.scaled y.scaled := by
  have ha : JsonNumber.InRange 0x20000000000001 := ⟨by decide, by decide⟩
  have hb : JsonNumber.InRange 0x20000000000000 := ⟨by decide, by decide⟩
  have hvalue : Record.resolve? [("n", .num (.int 0x20000000000001))] "n" =
      some (.num (.int 0x20000000000001)) := rfl
  obtain ⟨x, y, hx, hy, hrounded, -⟩ := compares_integers_as_nearest "a" ha hb hvalue
  exact ⟨ha, hb, x, y, hx, hy, hrounded⟩

/-- The filters are not exact: an integer is found under the name of its neighbour. -/
theorem not_always_exact_on_integers :
    ¬∀ (a b : Int) (id : String) (body : Record) (field : String), JsonNumber.InRange a →
      JsonNumber.InRange b → body.resolve? field = some (.num (.int a)) →
      ComparesAs id body field b a b := by
  intro h
  have ha : JsonNumber.InRange 0x20000000000001 := ⟨by decide, by decide⟩
  have hb : JsonNumber.InRange 0x20000000000000 := ⟨by decide, by decide⟩
  have hvalue : Record.resolve? [("n", .num (.int 0x20000000000001))] "n" =
      some (.num (.int 0x20000000000001)) := rfl
  have hsame : Binary64.ofInt 0x20000000000001 = Binary64.ofInt 0x20000000000000 := by
    decide +kernel
  have hexact := (comparesAs_scaled "a" hvalue 0x20000000000000).iff.1
    (h _ _ "a" _ "n" ha hb hvalue)
  exact absurd (hexact.1.1 (congrArg Binary64.scaled hsame)) (by decide)

end Filter

end CriteriaSearch
