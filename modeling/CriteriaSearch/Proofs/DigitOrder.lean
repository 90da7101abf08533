import CriteriaSearch.Proofs.CanonicalText
import Mathlib.Data.String.Basic

/-!
# The order of written numbers

Digits of one length are in the order of the numbers that they stand for, whatever comes behind them
(`Binary64.append_lt_append_iff`).  So numbers that are padded to one width are
(`Timestamp.padded_append_lt_iff`), and a number of more digits than another is compared by its
leading ones first (`Timestamp.padded_add`).
-/

namespace CriteriaSearch

namespace Binary64

variable {ds es r s : List Char}

lemma natOfDigits_append (ds es : List Char) :
    natOfDigits (ds ++ es) = natOfDigits ds * 10 ^ es.length + natOfDigits es := by
  rw [natOfDigits_eq, natOfDigits_eq, natOfDigits_eq, Nat.ofDigitChars_append,
    Nat.ofDigitChars_eq_ofDigitChars_zero, Nat.mul_comm]

lemma natOfDigits_cons (c : Char) (ds : List Char) :
    natOfDigits (c :: ds) = (c.toNat - '0'.toNat) * 10 ^ ds.length + natOfDigits ds := by
  have hsingle : natOfDigits [c] = c.toNat - '0'.toNat := Nat.zero_add _
  rw [← List.singleton_append, natOfDigits_append, hsingle]

lemma toNat_of_isDigit {c : Char} (h : c.isDigit = true) :
    '0'.toNat ≤ c.toNat ∧ c.toNat ≤ '9'.toNat := by
  simpa [Char.isDigit, UInt32.le_iff_toNat_le] using h

/-- **Digits of one length are in the order of their numbers.** -/
theorem append_lt_append_iff (hds : ∀ c ∈ ds, c.isDigit = true) (hes : ∀ c ∈ es, c.isDigit = true)
    (hlength : ds.length = es.length) : ds ++ r < es ++ s ↔
      natOfDigits ds < natOfDigits es ∨ natOfDigits ds = natOfDigits es ∧ r < s := by
  induction ds generalizing es with
  | nil =>
    obtain rfl := List.length_eq_zero_iff.1 hlength.symm
    simp
  | cons c ds ih =>
    cases es with
    | nil => cases hlength
    | cons d es =>
      rw [List.length_cons, List.length_cons, Nat.add_right_cancel_iff] at hlength
      rw [List.forall_mem_cons] at hds hes
      have hrest := ih hds.2 hes.2 hlength
      have hlow := natOfDigits_lt hds.2
      have hlow' := natOfDigits_lt hes.2
      obtain ⟨hc, -⟩ := toNat_of_isDigit hds.1
      obtain ⟨hd, -⟩ := toNat_of_isDigit hes.1
      rw [List.cons_append, List.cons_append, List.cons_lt_cons_iff, hrest, natOfDigits_cons,
        natOfDigits_cons, hlength]
      rw [hlength] at hlow
      have hleading {a b : Nat} (h : a < b) : a * 10 ^ es.length + 10 ^ es.length ≤
          b * 10 ^ es.length := by
        rw [← Nat.succ_mul]
        exact Nat.mul_le_mul_right _ h
      rcases lt_trichotomy c d with hlt | rfl | hgt
      · -- The first digits decide, however large the rest is.
        have hchar : c.toNat < d.toNat := UInt32.lt_iff_toNat_lt.1 hlt
        have hdigits := hleading (Nat.sub_lt_sub_right hc hchar)
        have hvalue : (c.toNat - '0'.toNat) * 10 ^ es.length + natOfDigits ds <
            (d.toNat - '0'.toNat) * 10 ^ es.length + natOfDigits es := by omega
        exact ⟨fun _ => .inl hvalue, fun _ => .inl hlt⟩
      · rw [Nat.add_lt_add_iff_left, Nat.add_left_cancel_iff]
        simp
      · have hchar : d.toNat < c.toNat := UInt32.lt_iff_toNat_lt.1 hgt
        have hdigits := hleading (Nat.sub_lt_sub_right hd hchar)
        constructor
        · rintro (h | ⟨rfl, -⟩)
          · exact absurd h (lt_asymm hgt)
          · exact absurd hgt (lt_irrefl c)
        · omega

/-- Digits of one length that stand for one number are the same. -/
lemma eq_of_natOfDigits_eq (hds : ∀ c ∈ ds, c.isDigit = true) (hes : ∀ c ∈ es, c.isDigit = true)
    (hlength : ds.length = es.length) (h : natOfDigits ds = natOfDigits es) : ds = es := by
  have hle := append_lt_append_iff (r := []) (s := []) hds hes hlength
  have hge := append_lt_append_iff (r := []) (s := []) hes hds hlength.symm
  rw [List.append_nil, List.append_nil, h] at hle hge
  refine le_antisymm (not_lt.1 fun hlt => ?_) (not_lt.1 fun hlt => ?_)
  · simpa using hge.1 hlt
  · simpa using hle.1 hlt

end Binary64

namespace Timestamp

variable {w k m n : Nat} {r s : List Char}

/-- **Numbers of one width are written in their order.** -/
theorem padded_append_lt_iff (hw : 0 < w) (hm : m < 10 ^ w) (hn : n < 10 ^ w) :
    padded w m ++ r < padded w n ++ s ↔ m < n ∨ m = n ∧ r < s := by
  have hlength : (padded w m).length = (padded w n).length := by
    rw [length_padded hw hm, length_padded hw hn]
  rw [Binary64.append_lt_append_iff (fun _ => isDigit_of_mem_padded)
    (fun _ => isDigit_of_mem_padded) hlength, natOfDigits_padded, natOfDigits_padded]

/-- The leading digits of a number are written in front of the others. -/
lemma padded_add (hw : 0 < w) (hk : 0 < k) (hn : n < 10 ^ (w + k)) :
    padded (w + k) n = padded w (n / 10 ^ k) ++ padded k (n % 10 ^ k) := by
  have hpos : 0 < 10 ^ k := Nat.pow_pos (by decide)
  have hfront : n / 10 ^ k < 10 ^ w := by
    rwa [Nat.div_lt_iff_lt_mul hpos, ← Nat.pow_add]
  have hback : n % 10 ^ k < 10 ^ k := Nat.mod_lt n hpos
  have hlength := length_padded hk hback
  apply Binary64.eq_of_natOfDigits_eq
  · exact fun _ => isDigit_of_mem_padded
  · intro c hc
    exact (List.mem_append.1 hc).elim isDigit_of_mem_padded isDigit_of_mem_padded
  · rw [List.length_append, hlength, length_padded hw hfront, length_padded (by omega) hn]
  · rw [Binary64.natOfDigits_append, hlength, natOfDigits_padded, natOfDigits_padded,
      natOfDigits_padded, Nat.div_add_mod']

/-- A written number begins with a digit. -/
lemma padded_eq_cons (w n : Nat) :
    ∃ c ds, padded w n = c :: ds ∧ c.isDigit = true ∧ ∀ d ∈ ds, d.isDigit = true := by
  cases hpadded : padded w n with
  | nil => exact absurd (List.append_eq_nil_iff.1 hpadded).2 Nat.toDigits_ne_nil
  | cons c ds =>
    have hall : ∀ d ∈ c :: ds, d.isDigit = true := fun d hd =>
      isDigit_of_mem_padded (hpadded ▸ hd)
    rw [List.forall_mem_cons] at hall
    exact ⟨c, ds, rfl, hall⟩

end Timestamp

end CriteriaSearch
