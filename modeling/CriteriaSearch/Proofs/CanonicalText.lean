import CriteriaSearch.Proofs.Calendar
import CriteriaSearch.Timestamp.Reader
import Mathlib.Algebra.Group.Nat.Defs
import Mathlib.Data.List.TakeWhile
import Mathlib.Data.Option.Basic
import Mathlib.Tactic.Common

/-!
# Canonical texts of points in time

What reads as a point in time, in whichever written form, is well-formed (`wellFormed_of_ofText?`),
and so is what stands for a number of milliseconds.  The canonical text of such a point is made for
the full form: every number is written in the width in which that form reads it.

The full form takes four digits for the year and no sign, while a canonical text signs the years
outside 0 to 9999.  The three loose forms do take a sign, but they know no offset and so never get
past the closing `Z`.  So a canonical text reads back when its year is plain (`ofText?_text`), and
not when it is not (`ofText?_text_of_not_hasPlainYear`).
-/

namespace CriteriaSearch

/-! ## Digits -/

lemma Binary64.natOfDigits_eq (s : List Char) : natOfDigits s = Nat.ofDigitChars 10 s 0 := by
  simp only [natOfDigits, Nat.ofDigitChars, Nat.mul_comm]

lemma Binary64.natOfDigits_lt {s : List Char} (h : ∀ c ∈ s, c.isDigit = true) :
    natOfDigits s < 10 ^ s.length := by
  -- The induction is on the digits, after any digits in front of them.
  have step : ∀ n : Nat, s.foldl (fun n c => n * 10 + (c.toNat - '0'.toNat)) n <
      (n + 1) * 10 ^ s.length := by
    induction s with
    | nil => simp
    | cons c rest ih =>
      intro n
      rw [List.forall_mem_cons] at h
      have hdigit : c.toNat - '0'.toNat ≤ 9 := by
        have := h.1
        simp only [Char.isDigit, Bool.and_eq_true, decide_eq_true_eq,
          UInt32.le_iff_toNat_le] at this
        have := this.2
        change c.val.toNat - 48 ≤ 9
        change c.val.toNat ≤ 57 at this
        omega
      have hrest := ih h.2 (n * 10 + (c.toNat - '0'.toNat))
      have hle : n * 10 + (c.toNat - '0'.toNat) + 1 ≤ (n + 1) * 10 := by omega
      have hmul := Nat.mul_le_mul_right (10 ^ rest.length) hle
      rw [List.foldl_cons, List.length_cons, Nat.pow_succ', ← Nat.mul_assoc]
      omega
  have hbound := step 0
  rw [Nat.zero_add, Nat.one_mul] at hbound
  exact hbound

namespace Timestamp

lemma isDigit_of_mem_padded {width n : Nat} {c : Char} (h : c ∈ padded width n) :
    c.isDigit = true := by
  rcases List.mem_append.1 h with hzero | hdigit
  · rw [List.eq_of_mem_replicate hzero]
    rfl
  · exact Nat.isDigit_of_mem_toDigits (by decide) (by decide) hdigit

lemma length_padded {width n : Nat} (hwidth : 0 < width) (h : n < 10 ^ width) :
    (padded width n).length = width := by
  have hle := (Nat.length_toDigits_le_iff (b := 10) (by decide) hwidth).2 h
  rw [padded, List.length_append, List.length_replicate]
  omega

lemma natOfDigits_padded (width n : Nat) : Binary64.natOfDigits (padded width n) = n := by
  have hzeros : ∀ k, Nat.ofDigitChars 10 (List.replicate k '0') 0 = 0 := by
    intro k
    induction k with
    | zero => rfl
    | succ k ih => rw [List.replicate_succ, Nat.ofDigitChars_cons]; exact ih
  rw [Binary64.natOfDigits_eq, padded, Nat.ofDigitChars_append, hzeros]
  exact Nat.ofDigitChars_toDigits (by decide) (by decide)

/-- A number in its full width is read, whatever comes after it. -/
lemma number?_padded {width n : Nat} (hwidth : 0 < width) (h : n < 10 ^ width)
    (rest : List Char) : number? width width (padded width n ++ rest) = some (n, rest) := by
  have hlength := length_padded hwidth h
  have htake : (padded width n ++ rest).take width = padded width n := by
    rw [List.take_append_of_le_length (by omega), List.take_of_length_le (by omega)]
  have hdigits : ((padded width n ++ rest).take width).takeWhile Char.isDigit =
      padded width n := by
    rw [htake, List.takeWhile_eq_self_iff]
    exact fun c => isDigit_of_mem_padded
  have hdrop : (padded width n ++ rest).drop width = rest := by
    rw [List.drop_append_of_le_length (by omega), List.drop_of_length_le (by omega)]
    rfl
  simp only [number?, hdigits, hlength, natOfDigits_padded, hdrop, Nat.lt_irrefl, if_false]

/-- The fraction of a second is read up to the `Z` that ends a canonical text. -/
lemma fraction?_fractionText {nano : Nat} (h : nano < 1000000000) :
    fraction? (fractionText nano ++ ['Z']) = some (nano, ['Z']) := by
  have hdigits : ∀ width n : Nat, 0 < width → width ≤ 9 → n < 10 ^ width →
      fraction? ('.' :: padded width n ++ ['Z']) = some (n * pow10 (9 - width), ['Z']) := by
    intro width n hwidth hle hn
    have hlength := length_padded hwidth hn
    have hall : ∀ c ∈ padded width n, c.isDigit = true := fun c => isDigit_of_mem_padded
    have htake : (padded width n ++ ['Z']).takeWhile Char.isDigit = padded width n := by
      rw [List.takeWhile_append_of_pos hall]
      simp
    have hdrop : (padded width n ++ ['Z']).dropWhile Char.isDigit = ['Z'] := by
      rw [List.dropWhile_append_of_pos hall]
      rfl
    have hnonempty : (padded width n).isEmpty = false := by
      rw [List.isEmpty_eq_false_iff, ← List.length_pos_iff]
      omega
    have hkept : (padded width n).take 9 = padded width n := List.take_of_length_le (by omega)
    simp only [fraction?, List.cons_append, htake, hdrop, hnonempty, hkept, hlength,
      natOfDigits_padded, Bool.false_eq_true, if_false]
  unfold fractionText
  split
  · next hzero => simp [fraction?, hzero]
  split
  · next hmillis =>
    rw [hdigits 3 _ (by decide) (by decide) (by omega)]
    have hpow : pow10 (9 - 3) = 1000000 := rfl
    rw [hpow, Nat.div_mul_cancel (Nat.dvd_of_mod_eq_zero hmillis)]
  split
  · next hmicros =>
    rw [hdigits 6 _ (by decide) (by decide) (by omega)]
    have hpow : pow10 (9 - 6) = 1000 := rfl
    rw [hpow, Nat.div_mul_cancel (Nat.dvd_of_mod_eq_zero hmicros)]
  · rw [hdigits 9 _ (by decide) (by decide) (by omega)]
    have hpow : pow10 (9 - 9) = 1 := rfl
    rw [hpow, Nat.mul_one]

/-! ## Points that are written and read -/

/-- A second of a day, with a leap second only at the end of a minute. -/
structure WellFormed (t : Timestamp) : Prop where
  second_lt : t.second < 86400
  nano_lt : t.nano < 2000000000
  leap : 1000000000 ≤ t.nano → t.second % 60 = 59

/-- The year of a point in universal time. -/
def year (t : Timestamp) : Int :=
  (CivilDate.ofDayNumber t.day).year

/-- Whether the year of a point is written with four digits and no sign. -/
def HasPlainYear (t : Timestamp) : Prop :=
  0 ≤ t.year ∧ t.year ≤ 9999

instance (t : Timestamp) : Decidable t.HasPlainYear := by
  unfold HasPlainYear
  infer_instance

lemma nano_lt_of_fraction? {s rest : List Char} {nano : Nat} (h : fraction? s = some (nano, rest)) :
    nano < 1000000000 := by
  unfold fraction? at h
  split at h
  · next rest' =>
    dsimp only at h
    split at h
    · simp at h
    · simp only [Option.some.injEq, Prod.mk.injEq] at h
      obtain ⟨rfl, -⟩ := h
      have hdigits : ∀ c ∈ (rest'.takeWhile Char.isDigit).take 9, c.isDigit = true := fun c hc =>
        List.mem_takeWhile_imp (List.mem_of_mem_take hc)
      have hlt := Binary64.natOfDigits_lt hdigits
      have hle : ((rest'.takeWhile Char.isDigit).take 9).length ≤ 9 := List.length_take_le _ _
      generalize (rest'.takeWhile Char.isDigit).take 9 = kept at *
      have hpow : 10 ^ kept.length * pow10 (9 - kept.length) = 1000000000 := by
        rw [pow10, Nat.pow_eq, ← Nat.pow_add, Nat.add_sub_cancel' hle]
      rw [← hpow]
      exact Nat.mul_lt_mul_of_pos_right hlt (pow10_pos _)
  · simp only [Option.some.injEq, Prod.mk.injEq] at h
    omega

lemma mod_of_offset? {s rest : List Char} {offset : Int} (h : offset? s = some (offset, rest)) :
    offset % 60 = 0 := by
  unfold offset? at h
  split at h
  · simp at h
  split at h
  · simp only [Option.some.injEq, Prod.mk.injEq] at h
    omega
  split at h
  · simp only [Option.bind_eq_bind, Option.bind_eq_some_iff] at h
    obtain ⟨⟨hours, s₁⟩, -, s₂, -, ⟨minutes, s₃⟩, -, h⟩ := h
    dsimp only at h
    split at h
    · simp at h
    · simp only [Option.some.injEq, Prod.mk.injEq] at h
      obtain ⟨h, -⟩ := h
      split at h <;> omega
  · simp at h

/-- What fields name is well-formed. -/
lemma wellFormed_of_ofFields? {f : Fields} {offset : Int} {t : Timestamp}
    (hnano : f.nano < 1000000000) (hoffset : offset % 60 = 0) (h : ofFields? f offset = some t) :
    t.WellFormed := by
  unfold ofFields? at h
  split at h
  · obtain rfl := Option.some.inj h
    constructor
    · show (_ : Int).toNat < 86400
      omega
    · change (if f.second = 60 then 1000000000 + f.nano else f.nano) < 2000000000
      split <;> omega
    · intro hleap
      change 1000000000 ≤ (if f.second = 60 then _ else _) at hleap
      split at hleap
      · next hsecond =>
        simp only [hsecond, if_true]
        omega
      · omega
  · simp at h

lemma wellFormed_of_ofMillis? {millis : Int} {t : Timestamp} (h : ofMillis? millis = some t) :
    t.WellFormed := by
  unfold ofMillis? at h
  dsimp only at h
  split at h
  · obtain rfl := Option.some.inj h
    constructor
    · show (_ : Nat) / 1000 < 86400
      omega
    · show (_ : Nat) % 1000 * 1000000 < 2000000000
      omega
    · intro hleap
      change 1000000000 ≤ (_ : Nat) % 1000 * 1000000 at hleap
      omega
  · simp at h

lemma wellFormed_of_ofFullText? {s : List Char} {t : Timestamp} (h : ofFullText? s = some t) :
    t.WellFormed := by
  unfold ofFullText? at h
  obtain ⟨⟨year, s₁⟩, -, h⟩ := Option.bind_eq_some_iff.1 h
  obtain ⟨s₂, -, h⟩ := Option.bind_eq_some_iff.1 h
  obtain ⟨⟨month, s₃⟩, -, h⟩ := Option.bind_eq_some_iff.1 h
  obtain ⟨s₄, -, h⟩ := Option.bind_eq_some_iff.1 h
  obtain ⟨⟨day, s₅⟩, -, h⟩ := Option.bind_eq_some_iff.1 h
  match s₅, h with
  | c :: s₆, h =>
    dsimp only at h
    split at h
    · obtain ⟨⟨hour, s₇⟩, -, h⟩ := Option.bind_eq_some_iff.1 h
      obtain ⟨s₈, -, h⟩ := Option.bind_eq_some_iff.1 h
      obtain ⟨⟨minute, s₉⟩, -, h⟩ := Option.bind_eq_some_iff.1 h
      obtain ⟨s₁₀, -, h⟩ := Option.bind_eq_some_iff.1 h
      obtain ⟨⟨second, s₁₁⟩, -, h⟩ := Option.bind_eq_some_iff.1 h
      obtain ⟨⟨nano, s₁₂⟩, hnano, h⟩ := Option.bind_eq_some_iff.1 h
      obtain ⟨⟨offset, s₁₃⟩, hoffset, h⟩ := Option.bind_eq_some_iff.1 h
      dsimp only at h
      split at h
      · exact wellFormed_of_ofFields? (nano_lt_of_fraction? hnano) (mod_of_offset? hoffset) h
      · simp at h
    · simp at h

lemma nano_lt_of_looseTime? {date : CivilDate} {s : List Char} {f : Fields}
    (h : looseTime? date s = some f) : f.nano < 1000000000 := by
  simp only [looseTime?, Option.bind_eq_bind, Option.bind_eq_some_iff, Prod.exists] at h
  obtain ⟨hour, s₁, -, s₂, -, minute, s₃, -, s₄, -, second, s₅, -, nano, s₆, hnano, h⟩ := h
  split at h
  · obtain rfl := Option.some.inj h
    exact nano_lt_of_fraction? hnano
  · simp at h

lemma wellFormed_of_ofJoinedText? {s : List Char} {t : Timestamp} (h : ofJoinedText? s = some t) :
    t.WellFormed := by
  simp only [ofJoinedText?, Option.bind_eq_bind, Option.bind_eq_some_iff, Prod.exists] at h
  obtain ⟨date, s₁, -, s₂, -, f, hf, h⟩ := h
  exact wellFormed_of_ofFields? (nano_lt_of_looseTime? hf) (by decide) h

lemma wellFormed_of_ofSpacedText? {s : List Char} {t : Timestamp} (h : ofSpacedText? s = some t) :
    t.WellFormed := by
  simp only [ofSpacedText?, Option.bind_eq_bind, Option.bind_eq_some_iff, Prod.exists] at h
  obtain ⟨date, s₁, -, f, hf, h⟩ := h
  exact wellFormed_of_ofFields? (nano_lt_of_looseTime? hf) (by decide) h

lemma wellFormed_of_ofDateText? {s : List Char} {t : Timestamp} (h : ofDateText? s = some t) :
    t.WellFormed := by
  simp only [ofDateText?, Option.bind_eq_bind, Option.bind_eq_some_iff, Prod.exists] at h
  obtain ⟨date, s₁, -, h⟩ := h
  split at h
  · exact wellFormed_of_ofFields? (Nat.zero_lt_succ _) (by decide) h
  · simp at h

/-- **What reads as a point in time is well-formed**, in all four written forms. -/
theorem wellFormed_of_ofText? {s : String} {t : Timestamp} (h : ofText? s = some t) :
    t.WellFormed := by
  rw [ofText?, Option.orElse_eq_some, Option.orElse_eq_some, Option.orElse_eq_some] at h
  rcases h with h | ⟨-, h | ⟨-, h | ⟨-, h⟩⟩⟩
  · exact wellFormed_of_ofFullText? h
  · exact wellFormed_of_ofJoinedText? h
  · exact wellFormed_of_ofSpacedText? h
  · exact wellFormed_of_ofDateText? h

/-! ## The full form -/

lemma toList_text (t : Timestamp) :
    t.text.toList = yearText t.year ++ '-' :: (padded 2 (CivilDate.ofDayNumber t.day).month ++
      '-' :: (padded 2 (CivilDate.ofDayNumber t.day).day ++ 'T' :: (padded 2 (t.second / 3600) ++
        ':' :: (padded 2 (t.second / 60 % 60) ++
          ':' :: (padded 2 (t.second % 60 + if 1000000000 ≤ t.nano then 1 else 0) ++
            (fractionText (if 1000000000 ≤ t.nano then t.nano - 1000000000 else t.nano) ++
              ['Z'])))))) := by
  simp [text, year]

@[simp] lemma char?_cons (c : Char) (rest : List Char) : char? c (c :: rest) = some rest := by
  simp [char?]

lemma ofFields?_eq (t : Timestamp) (h : t.WellFormed) (hyear : t.HasPlainYear) :
    ofFields?
      { date := CivilDate.ofDayNumber t.day, hour := t.second / 3600, minute := t.second / 60 % 60
        second := t.second % 60 + if 1000000000 ≤ t.nano then 1 else 0
        nano := if 1000000000 ≤ t.nano then t.nano - 1000000000 else t.nano } 0 = some t := by
  obtain ⟨hsecond, hnano, hleap⟩ := h
  have hvalid : (CivilDate.ofDayNumber t.day).Valid :=
    CivilDate.valid_ofDayNumber (Int.le_trans (by decide) hyear.1)
      (Int.le_trans hyear.2 (by decide))
  have hclock : t.second / 3600 < 24 ∧ t.second / 60 % 60 < 60 ∧
      (t.second % 60 + if 1000000000 ≤ t.nano then 1 else 0) ≤ 60 := by
    split <;> omega
  rw [ofFields?, if_pos ⟨hvalid, hclock⟩]
  obtain ⟨day, second, nano⟩ := t
  dsimp only at *
  have hsum : second / 3600 * 3600 + second / 60 % 60 * 60 + second % 60 = second := by omega
  have hinstant : ((second : Int) - 0) / 86400 = 0 ∧ ((second : Int) - 0) % 86400 = second := by
    omega
  rw [Option.some.injEq, Timestamp.mk.injEq, CivilDate.toDayNumber_ofDayNumber]
  by_cases hlate : 1000000000 ≤ nano
  · have h59 := hleap hlate
    rw [h59] at hsum
    simp only [hlate, if_true, h59, hsum, hinstant, Int.toNat_natCast]
    exact ⟨Int.add_zero day, trivial, by omega⟩
  · have hne : ¬second % 60 = 60 := by omega
    simp only [hlate, if_false, Nat.add_zero, if_neg hne, hsum, hinstant, Int.toNat_natCast]
    exact ⟨Int.add_zero day, trivial, trivial⟩

/-- **A canonical text with a plain year is read in the full form, as the point it was written
from.** -/
theorem ofFullText?_text {t : Timestamp} (h : t.WellFormed) (hyear : t.HasPlainYear) :
    ofFullText? t.text.toList = some t := by
  have hfields := ofFields?_eq t h hyear
  obtain ⟨hsecond, hnano, hleap⟩ := h
  have hplain : yearText t.year = padded 4 t.year.toNat := if_pos hyear
  obtain ⟨-, -, -, hmonth, -, hday⟩ : (CivilDate.ofDayNumber t.day).Valid :=
    CivilDate.valid_ofDayNumber (Int.le_trans (by decide) hyear.1)
      (Int.le_trans hyear.2 (by decide))
  have hyear' : t.year.toNat < 10 ^ 4 ∧ ((t.year.toNat : Nat) : Int) = t.year := by
    obtain ⟨h0, h9⟩ := hyear
    omega
  have hmonth' : (CivilDate.ofDayNumber t.day).month < 10 ^ 2 := by omega
  have hday' : (CivilDate.ofDayNumber t.day).day < 10 ^ 2 := by
    have : CivilDate.daysInMonth (CivilDate.ofDayNumber t.day).year
        (CivilDate.ofDayNumber t.day).month ≤ 31 := by
      unfold CivilDate.daysInMonth
      split_ifs <;> omega
    omega
  have hhour : t.second / 3600 < 10 ^ 2 := by omega
  have hminute : t.second / 60 % 60 < 10 ^ 2 := by omega
  have hsecond' : (t.second % 60 + if 1000000000 ≤ t.nano then 1 else 0) < 10 ^ 2 := by
    split <;> omega
  have hnano' : (if 1000000000 ≤ t.nano then t.nano - 1000000000 else t.nano) < 1000000000 := by
    split <;> omega
  rw [toList_text, hplain]
  unfold ofFullText?
  refine Option.bind_eq_some_iff.2 ⟨(_, _), number?_padded (by decide) hyear'.1 _, ?_⟩
  refine Option.bind_eq_some_iff.2 ⟨_, char?_cons '-' _, ?_⟩
  refine Option.bind_eq_some_iff.2 ⟨(_, _), number?_padded (by decide) hmonth' _, ?_⟩
  refine Option.bind_eq_some_iff.2 ⟨_, char?_cons '-' _, ?_⟩
  refine Option.bind_eq_some_iff.2 ⟨(_, _), number?_padded (by decide) hday' _, ?_⟩
  refine Option.bind_eq_some_iff.2 ⟨(_, _), number?_padded (by decide) hhour _, ?_⟩
  refine Option.bind_eq_some_iff.2 ⟨_, char?_cons ':' _, ?_⟩
  refine Option.bind_eq_some_iff.2 ⟨(_, _), number?_padded (by decide) hminute _, ?_⟩
  refine Option.bind_eq_some_iff.2 ⟨_, char?_cons ':' _, ?_⟩
  refine Option.bind_eq_some_iff.2 ⟨(_, _), number?_padded (by decide) hsecond' _, ?_⟩
  refine Option.bind_eq_some_iff.2 ⟨(_, _), fraction?_fractionText hnano', ?_⟩
  refine Option.bind_eq_some_iff.2 ⟨(0, []), rfl, ?_⟩
  dsimp only
  rw [hyear'.2]
  exact hfields

/-! ## The loose forms -/

/-- Whether reading goes from a text to a rest of it without passing a `Z`. -/
def SkipsNoZ (s rest : List Char) : Prop :=
  ∃ front, s = front ++ rest ∧ 'Z' ∉ front

lemma SkipsNoZ.refl (s : List Char) : SkipsNoZ s s :=
  ⟨[], rfl, List.not_mem_nil⟩

lemma SkipsNoZ.trans {s s' s'' : List Char} (h : SkipsNoZ s s') (h' : SkipsNoZ s' s'') :
    SkipsNoZ s s'' := by
  obtain ⟨front, rfl, hfront⟩ := h
  obtain ⟨front', rfl, hfront'⟩ := h'
  exact ⟨front ++ front', by simp, by simp [hfront, hfront']⟩

lemma skipsNoZ_number? {least most n : Nat} {s rest : List Char}
    (h : number? least most s = some (n, rest)) : SkipsNoZ s rest := by
  unfold number? at h
  dsimp only at h
  split at h
  · simp at h
  · simp only [Option.some.injEq, Prod.mk.injEq] at h
    obtain ⟨-, rfl⟩ := h
    obtain ⟨rest, hrest⟩ := (List.takeWhile_prefix Char.isDigit).trans (List.take_prefix most s)
    refine ⟨(s.take most).takeWhile Char.isDigit, ?_, fun hz => ?_⟩
    · rw [List.prefix_iff_eq_append.1 ⟨rest, hrest⟩]
    · exact absurd (List.mem_takeWhile_imp hz) (by decide)

lemma skipsNoZ_char? {c : Char} (hc : c ≠ 'Z') {s rest : List Char} (h : char? c s = some rest) :
    SkipsNoZ s rest := by
  unfold char? at h
  split at h
  · next d tail =>
    split at h
    · next hd =>
      obtain rfl := Option.some.inj h
      exact ⟨[d], rfl, by simpa [hd] using hc.symm⟩
    · simp at h
  · simp at h

lemma skipsNoZ_trimStart (s : List Char) : SkipsNoZ s (Text.trimStart s) :=
  ⟨s.takeWhile Text.isBlank, List.takeWhile_append_dropWhile.symm, fun hz =>
    absurd (List.mem_takeWhile_imp hz) (by decide)⟩

lemma skipsNoZ_loose? {most n : Nat} {s rest : List Char} (h : loose? most s = some (n, rest)) :
    SkipsNoZ s rest :=
  (skipsNoZ_trimStart s).trans (skipsNoZ_number? h)

lemma skipsNoZ_looseYear? {year : Int} {s rest : List Char}
    (h : looseYear? s = some (year, rest)) : SkipsNoZ s rest := by
  refine (skipsNoZ_trimStart s).trans ?_
  unfold looseYear? at h
  split at h
  · next tail heq =>
    obtain ⟨⟨n, rest⟩, hn, hrest⟩ := Option.map_eq_some_iff.1 h
    simp only [Prod.mk.injEq] at hrest
    obtain ⟨-, rfl⟩ := hrest
    rw [heq]
    exact .trans ⟨['-'], rfl, by decide⟩ (skipsNoZ_number? hn)
  · next tail heq =>
    obtain ⟨⟨n, rest⟩, hn, hrest⟩ := Option.map_eq_some_iff.1 h
    simp only [Prod.mk.injEq] at hrest
    obtain ⟨-, rfl⟩ := hrest
    rw [heq]
    exact .trans ⟨['+'], rfl, by decide⟩ (skipsNoZ_number? hn)
  · obtain ⟨⟨n, rest⟩, hn, hrest⟩ := Option.map_eq_some_iff.1 h
    simp only [Prod.mk.injEq] at hrest
    obtain ⟨-, rfl⟩ := hrest
    exact skipsNoZ_number? hn

lemma skipsNoZ_fraction? {nano : Nat} {s rest : List Char}
    (h : fraction? s = some (nano, rest)) : SkipsNoZ s rest := by
  unfold fraction? at h
  split at h
  · next tail =>
    dsimp only at h
    split at h
    · simp at h
    · simp only [Option.some.injEq, Prod.mk.injEq] at h
      obtain ⟨-, rfl⟩ := h
      refine .trans ⟨['.'], rfl, by decide⟩ ⟨tail.takeWhile Char.isDigit, ?_, fun hz => ?_⟩
      · exact List.takeWhile_append_dropWhile.symm
      · exact absurd (List.mem_takeWhile_imp hz) (by decide)
  · simp only [Option.some.injEq, Prod.mk.injEq] at h
    exact h.2 ▸ SkipsNoZ.refl s

lemma skipsNoZ_looseDate? {date : CivilDate} {s rest : List Char}
    (h : looseDate? s = some (date, rest)) : SkipsNoZ s rest := by
  simp only [looseDate?, Option.bind_eq_bind, Option.bind_eq_some_iff, Prod.exists] at h
  obtain ⟨year, s₁, hyear, s₂, hdash, month, s₃, hmonth, s₄, hdash', day, s₅, hday, h⟩ := h
  obtain rfl : s₅ = rest := by simpa using congrArg Prod.snd (Option.some.inj h)
  exact (skipsNoZ_looseYear? hyear).trans <| (skipsNoZ_char? (by decide) hdash).trans <|
    (skipsNoZ_loose? hmonth).trans <| (skipsNoZ_char? (by decide) hdash').trans <|
    skipsNoZ_loose? hday

lemma skipsNoZ_looseTime? {date : CivilDate} {s : List Char} {f : Fields}
    (h : looseTime? date s = some f) : SkipsNoZ s [] := by
  simp only [looseTime?, Option.bind_eq_bind, Option.bind_eq_some_iff, Prod.exists] at h
  obtain ⟨hour, s₁, hhour, s₂, hcolon, minute, s₃, hminute, s₄, hcolon', second, s₅, hsecond, nano,
    s₆, hnano, h⟩ := h
  split at h
  · next hempty =>
    obtain rfl := List.isEmpty_iff.1 hempty
    exact (skipsNoZ_loose? hhour).trans <| (skipsNoZ_char? (by decide) hcolon).trans <|
      (skipsNoZ_loose? hminute).trans <| (skipsNoZ_char? (by decide) hcolon').trans <|
      (skipsNoZ_loose? hsecond).trans (skipsNoZ_fraction? hnano)
  · simp at h

/-- **No loose form reads a text with a `Z` in it.** -/
lemma ofText?_of_mem {s : String} (h : 'Z' ∈ s.toList) : ofText? s = ofFullText? s.toList := by
  have hskips : ∀ s' : List Char, SkipsNoZ s.toList s' → 'Z' ∈ s' := by
    rintro s' ⟨front, hs, hfront⟩
    rw [hs, List.mem_append] at h
    exact h.resolve_left hfront
  have hjoined : ofJoinedText? s.toList = none := by
    rw [Option.eq_none_iff_forall_ne_some]
    intro t ht
    simp only [ofJoinedText?, Option.bind_eq_bind, Option.bind_eq_some_iff, Prod.exists] at ht
    obtain ⟨date, s₁, hdate, s₂, hmark, f, hf, -⟩ := ht
    exact absurd (hskips [] <| (skipsNoZ_looseDate? hdate).trans <|
      (skipsNoZ_char? (by decide) hmark).trans (skipsNoZ_looseTime? hf)) List.not_mem_nil
  have hspaced : ofSpacedText? s.toList = none := by
    rw [Option.eq_none_iff_forall_ne_some]
    intro t ht
    simp only [ofSpacedText?, Option.bind_eq_bind, Option.bind_eq_some_iff, Prod.exists] at ht
    obtain ⟨date, s₁, hdate, f, hf, -⟩ := ht
    exact absurd (hskips [] <| (skipsNoZ_looseDate? hdate).trans <|
      (skipsNoZ_trimStart s₁).trans (skipsNoZ_looseTime? hf)) List.not_mem_nil
  have hdate : ofDateText? s.toList = none := by
    rw [Option.eq_none_iff_forall_ne_some]
    intro t ht
    simp only [ofDateText?, Option.bind_eq_bind, Option.bind_eq_some_iff, Prod.exists] at ht
    obtain ⟨date, s₁, hdate, ht⟩ := ht
    split at ht
    · next hempty =>
      obtain rfl := List.isEmpty_iff.1 hempty
      exact absurd (hskips [] (skipsNoZ_looseDate? hdate)) List.not_mem_nil
    · simp at ht
  simp [ofText?, hjoined, hspaced, hdate]

/-! ## Canonical texts -/

/-- The full form takes four digits for the year and no sign. -/
lemma ofFullText?_text_of_not_hasPlainYear {t : Timestamp} (h : ¬t.HasPlainYear) :
    ofFullText? t.text.toList = none := by
  have hsign : ∃ sign rest, t.text.toList = sign :: rest ∧ sign.isDigit = false := by
    have hsigned : ¬(0 ≤ t.year ∧ t.year ≤ 9999) := h
    rw [toList_text, yearText, if_neg hsigned]
    split <;> exact ⟨_, _, rfl, by decide⟩
  obtain ⟨sign, rest, htext, hdigit⟩ := hsign
  have hnumber : number? 4 4 (sign :: rest) = none := by
    simp [number?, hdigit]
  rw [htext, ofFullText?, hnumber]
  rfl

lemma mem_text (t : Timestamp) : 'Z' ∈ t.text.toList := by
  simp [toList_text]

/-- **A canonical text with a plain year reads back as its point.** -/
theorem ofText?_text {t : Timestamp} (h : t.WellFormed) (hyear : t.HasPlainYear) :
    ofText? t.text = some t := by
  rw [ofText?_of_mem (mem_text t), ofFullText?_text h hyear]

/-- **A canonical text with any other year does not read back.** -/
theorem ofText?_text_of_not_hasPlainYear {t : Timestamp} (h : ¬t.HasPlainYear) :
    ofText? t.text = none := by
  rw [ofText?_of_mem (mem_text t), ofFullText?_text_of_not_hasPlainYear h]

end Timestamp

end CriteriaSearch
