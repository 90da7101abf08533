import CriteriaSearch.Proofs.CalendarOrder
import CriteriaSearch.Proofs.DigitOrder

/-!
# The order of canonical texts

A canonical text is written from the largest unit to the smallest, in fixed widths, so that texts
are in chronological order but for two things: the years outside 0 to 9999, and fractions.

A fraction is written with as many digits as it needs.  The text of a point that is another one with
some of its last digits cut off ends with `Z` where the other one goes on with a point or a digit,
and these are before `Z` (`fractionText_append_lt_iff`).  In years of four digits this is all that
is out of order (`text_lt_iff_of_hasPlainYear`).
-/

namespace CriteriaSearch

namespace Timestamp

/-! ## Instants -/

/-- Whether a point in time is earlier than another; a leap second is the end of the second that it
belongs to. -/
def Before (t u : Timestamp) : Prop :=
  t.day < u.day ∨ t.day = u.day ∧
    (t.second < u.second ∨ t.second = u.second ∧ t.nano < u.nano)

/-- The unit of the last written digit, in nanoseconds. -/
def unit (nano : Nat) : Nat :=
  if nano % 1000000000 = 0 then 1000000000
  else if nano % 1000000 = 0 then 1000000
  else if nano % 1000 = 0 then 1000
  else 1

/-- Whether a point in time is another one without the digits behind its own last one. -/
def CutsOff (t u : Timestamp) : Prop :=
  t.day = u.day ∧ t.second = u.second ∧ t.nano = u.nano / unit t.nano * unit t.nano

instance (t u : Timestamp) : Decidable (t.CutsOff u) := by
  unfold CutsOff
  infer_instance

/-! ## Years -/

variable {r s : List Char} {y z : Int}

/-- A year is written as digits, of which the first may be a sign. -/
lemma yearText_eq_cons (y : Int) :
    ∃ c ds, yearText y = c :: ds ∧ ∀ d ∈ ds, d.isDigit = true := by
  unfold yearText
  split
  · obtain ⟨c, ds, hpadded, -, hds⟩ := padded_eq_cons 4 y.toNat
    exact ⟨c, ds, hpadded, hds⟩
  · exact ⟨_, _, rfl, fun _ => isDigit_of_mem_padded⟩

lemma dash_lt_of_isDigit {c : Char} (h : c.isDigit = true) : '-' < c := by
  have hchar := (Binary64.toNat_of_isDigit h).1
  change '-'.toNat < c.toNat
  exact Nat.lt_of_lt_of_le (by decide) hchar

lemma lt_Z_of_isDigit {c : Char} (h : c.isDigit = true) : c < 'Z' := by
  have hchar := (Binary64.toNat_of_isDigit h).2
  change c.toNat < 'Z'.toNat
  exact Nat.lt_of_le_of_lt hchar (by decide)

/-- A dash behind digits does not change their order. -/
lemma append_dash_lt_iff {ds es : List Char} (hds : ∀ c ∈ ds, c.isDigit = true)
    (hes : ∀ c ∈ es, c.isDigit = true) :
    ds ++ '-' :: r < es ++ '-' :: s ↔ ds < es ∨ ds = es ∧ r < s := by
  induction ds generalizing es with
  | nil =>
    cases es with
    | nil => simp
    | cons e es => simp [List.cons_lt_cons_iff, dash_lt_of_isDigit (hes e List.mem_cons_self)]
  | cons d ds ih =>
    cases es with
    | nil =>
      have hlt := dash_lt_of_isDigit (hds d List.mem_cons_self)
      simp [List.cons_lt_cons_iff, lt_asymm hlt, hlt.ne']
    | cons e es =>
      rw [List.forall_mem_cons] at hds hes
      rw [List.cons_append, List.cons_append, List.cons_lt_cons_iff, ih hds.2 hes.2,
        List.cons_lt_cons_iff, List.cons.injEq]
      tauto

lemma yearText_append_lt_iff :
    yearText y ++ '-' :: r < yearText z ++ '-' :: s ↔
      yearText y < yearText z ∨ yearText y = yearText z ∧ r < s := by
  obtain ⟨c, ds, hy, hds⟩ := yearText_eq_cons y
  obtain ⟨d, es, hz, hes⟩ := yearText_eq_cons z
  rw [hy, hz, List.cons_append, List.cons_append, List.cons_lt_cons_iff, append_dash_lt_iff hds hes,
    List.cons_lt_cons_iff, List.cons.injEq]
  tauto

lemma yearText_of_plain (hy : 0 ≤ y) (hy' : y ≤ 9999) : yearText y = padded 4 y.toNat :=
  if_pos ⟨hy, hy'⟩

lemma yearText_of_not_plain (hy : ¬(0 ≤ y ∧ y ≤ 9999)) :
    ∃ sign, yearText y = sign :: padded 4 y.natAbs ∧ sign.isDigit = false ∧
      (sign = '-' ↔ y < 0) := by
  refine ⟨_, if_neg hy, ?_⟩
  split
  · next hneg => exact ⟨rfl, iff_of_true rfl hneg⟩
  · next hpos => exact ⟨rfl, iff_of_false (by decide) hpos⟩

/-- Different years have different texts. -/
lemma eq_of_yearText_eq (h : yearText y = yearText z) : y = z := by
  have hvalue {m n : Nat} (h : padded 4 m = padded 4 n) : m = n := by
    rw [← natOfDigits_padded 4 m, h, natOfDigits_padded]
  have hsigned {c : Char} {m n : Nat} (hc : c.isDigit = false) : padded 4 m ≠ c :: padded 4 n := by
    intro heq
    have hdigit := isDigit_of_mem_padded (heq ▸ List.mem_cons_self)
    exact Bool.noConfusion (hdigit.symm.trans hc)
  by_cases hy : 0 ≤ y ∧ y ≤ 9999
  · rw [yearText_of_plain hy.1 hy.2] at h
    by_cases hz : 0 ≤ z ∧ z ≤ 9999
    · rw [yearText_of_plain hz.1 hz.2] at h
      have := hvalue h
      omega
    · obtain ⟨sign, htext, hsign, -⟩ := yearText_of_not_plain hz
      exact absurd (h.trans htext) (hsigned hsign)
  · obtain ⟨sign, htext, hsign, hneg⟩ := yearText_of_not_plain hy
    by_cases hz : 0 ≤ z ∧ z ≤ 9999
    · rw [yearText_of_plain hz.1 hz.2] at h
      exact absurd (h.symm.trans htext) (hsigned hsign)
    · obtain ⟨sign', htext', -, hneg'⟩ := yearText_of_not_plain hz
      rw [htext, htext', List.cons.injEq] at h
      obtain ⟨rfl, habs⟩ := h
      have := hvalue habs
      have hsame := hneg.symm.trans hneg'
      omega

/-- Years of four digits are in the order of their texts. -/
lemma yearText_lt_of_plain (hy : 0 ≤ y) (hz : z ≤ 9999) (h : y < z) : yearText y < yearText z := by
  have hlt : y.toNat < z.toNat := by omega
  have hpadded := padded_append_lt_iff (w := 4) (m := y.toNat) (n := z.toNat) (r := []) (s := [])
    (by decide) (by omega) (by omega)
  rw [List.append_nil, List.append_nil] at hpadded
  rw [yearText_of_plain hy (by omega), yearText_of_plain (by omega) hz]
  exact hpadded.2 (.inl hlt)

/-! ## Fractions -/

section Fractions

variable {w k m n : Nat}

/-- Digits are before the closing `Z`. -/
lemma padded_append_lt_Z (w n : Nat) : padded w n ++ r < 'Z' :: s := by
  obtain ⟨c, ds, hpadded, hc, -⟩ := padded_eq_cons w n
  rw [hpadded, List.cons_append, List.cons_lt_cons_iff]
  exact .inl (lt_Z_of_isDigit hc)

/-- A number that ends is compared with the leading digits of one that goes on, and is behind those
that it agrees with. -/
lemma padded_Z_lt_iff (hw : 0 < w) (hk : 0 < k) (hm : m < 10 ^ w) (hn : n < 10 ^ (w + k)) :
    padded w m ++ 'Z' :: r < padded (w + k) n ++ s ↔ m < n / 10 ^ k := by
  have hfront : n / 10 ^ k < 10 ^ w := by
    rwa [Nat.div_lt_iff_lt_mul (Nat.pow_pos (by decide)), ← Nat.pow_add]
  rw [padded_add hw hk hn, List.append_assoc, padded_append_lt_iff hw hm hfront]
  exact or_iff_left fun h => lt_asymm h.2 (padded_append_lt_Z k (n % 10 ^ k))

/-- A number that goes on is compared by its leading digits with one that ends. -/
lemma padded_lt_Z_iff (hw : 0 < w) (hk : 0 < k) (hm : m < 10 ^ (w + k)) (hn : n < 10 ^ w) :
    padded (w + k) m ++ r < padded w n ++ 'Z' :: s ↔ m / 10 ^ k ≤ n := by
  have hfront : m / 10 ^ k < 10 ^ w := by
    rwa [Nat.div_lt_iff_lt_mul (Nat.pow_pos (by decide)), ← Nat.pow_add]
  rw [padded_add hw hk hm, List.append_assoc, padded_append_lt_iff hw hfront hn,
    Nat.le_iff_lt_or_eq]
  exact or_congr_right (and_iff_left (padded_append_lt_Z k (m % 10 ^ k)))

/-- A fraction is written in whole units of its last digit. -/
lemma fractionText_eq (h0 : n ≠ 0) (h : n < 1000000000) : ∃ k ≤ 6, unit n = 10 ^ k ∧
    10 ^ k ∣ n ∧ fractionText n = '.' :: padded (9 - k) (n / 10 ^ k) := by
  have hwhole : n % 1000000000 ≠ 0 := by omega
  unfold unit fractionText
  rw [if_neg hwhole, if_neg h0]
  split
  · next hmillis => exact ⟨6, by decide, rfl, Nat.dvd_of_mod_eq_zero hmillis, rfl⟩
  split
  · next hmicros => exact ⟨3, by decide, rfl, Nat.dvd_of_mod_eq_zero hmicros, rfl⟩
  · exact ⟨0, by decide, rfl, Nat.one_dvd n, by rw [Nat.pow_zero, Nat.div_one]⟩

/-- **Fractions are in the order of their texts unless one is the other with digits cut off.** -/
lemma fractionText_append_lt_iff (hn : n < 1000000000) (h : m < n) :
    fractionText m ++ ['Z'] < fractionText n ++ ['Z'] ↔ m ≠ n / unit m * unit m := by
  have hn0 : n ≠ 0 := by omega
  obtain ⟨k, hk, -, hdvd, htext⟩ := fractionText_eq hn0 hn
  by_cases hm0 : m = 0
  · subst hm0
    have hcut : n / unit 0 * unit 0 = 0 := by
      rw [show unit 0 = 1000000000 from rfl, Nat.div_eq_of_lt hn, Nat.zero_mul]
    rw [hcut, htext]
    have hpoint : ¬ 'Z' < '.' := by decide
    simp [fractionText, List.cons_lt_cons_iff, hpoint]
  obtain ⟨j, hj, hunit, hdvd', htext'⟩ := fractionText_eq hm0 (Nat.lt_trans h hn)
  rw [htext, htext', hunit, List.cons_append, List.cons_append, List.cons_lt_cons_self]
  have hbound {i n : Nat} (hi : i ≤ 6) (hn : n < 1000000000) : n / 10 ^ i < 10 ^ (9 - i) := by
    rw [Nat.div_lt_iff_lt_mul (Nat.pow_pos (by decide)), ← Nat.pow_add,
      Nat.sub_add_cancel (Nat.le_trans hi (by decide))]
    exact hn
  have hm' := hbound hj (Nat.lt_trans h hn)
  have hn' := hbound hk hn
  rcases Nat.lt_trichotomy j k with hlt | rfl | hgt
  · -- The first fraction is the longer one, and nothing is cut off the second.
    have hwidth : 9 - j = 9 - k + (k - j) := by omega
    have hwhole : n / 10 ^ j * 10 ^ j = n :=
      Nat.div_mul_cancel (Nat.dvd_trans (Nat.pow_dvd_pow 10 hlt.le) hdvd)
    have hleading : m / 10 ^ j / 10 ^ (k - j) = m / 10 ^ k := by
      rw [Nat.div_div_eq_div_mul, ← Nat.pow_add, Nat.add_sub_cancel' hlt.le]
    rw [hwidth] at hm' ⊢
    rw [padded_lt_Z_iff (by omega) (by omega) hm' hn', hleading, hwhole]
    exact iff_of_true (Nat.div_le_div_right h.le) h.ne
  · have hwhole : n / 10 ^ j * 10 ^ j = n := Nat.div_mul_cancel hdvd
    rw [padded_append_lt_iff (by omega) hm' hn', hwhole]
    exact iff_of_true (.inl (Nat.div_lt_div_of_lt_of_dvd hdvd h)) h.ne
  · -- The second fraction goes on behind the digits that the first one has.
    have hwidth : 9 - k = 9 - j + (j - k) := by omega
    have hwhole : m / 10 ^ j * 10 ^ j = m := Nat.div_mul_cancel hdvd'
    have hleading : n / 10 ^ k / 10 ^ (j - k) = n / 10 ^ j := by
      rw [Nat.div_div_eq_div_mul, ← Nat.pow_add, Nat.add_sub_cancel' hgt.le]
    rw [hwidth] at hn' ⊢
    rw [padded_Z_lt_iff (by omega) (by omega) hm' hn', hleading]
    have hle : m / 10 ^ j ≤ n / 10 ^ j := Nat.div_le_div_right h.le
    constructor
    · intro hlt hcut
      have hsame : m / 10 ^ j = n / 10 ^ j := by
        rw [hcut, Nat.mul_div_cancel _ (Nat.pow_pos (by decide))]
      exact hlt.ne hsame
    · intro hne
      refine hle.lt_of_ne fun hsame => hne ?_
      rw [← hsame, hwhole]

end Fractions

/-! ## Texts -/

/-- The second of a minute that is written, with a leap second as the sixtieth. -/
def writtenSecond (t : Timestamp) : Nat :=
  t.second % 60 + if 1000000000 ≤ t.nano then 1 else 0

/-- The nanoseconds that are written. -/
def writtenNano (t : Timestamp) : Nat :=
  if 1000000000 ≤ t.nano then t.nano - 1000000000 else t.nano

variable {t u : Timestamp}

/-- Texts are compared field by field, from the year down to the fraction. -/
lemma text_lt_iff_fields (ht : t.WellFormed) (hu : u.WellFormed) :
    t.text < u.text ↔ yearText t.year < yearText u.year ∨ t.year = u.year ∧
      ((CivilDate.ofDayNumber t.day).month < (CivilDate.ofDayNumber u.day).month ∨
        (CivilDate.ofDayNumber t.day).month = (CivilDate.ofDayNumber u.day).month ∧
      ((CivilDate.ofDayNumber t.day).day < (CivilDate.ofDayNumber u.day).day ∨
        (CivilDate.ofDayNumber t.day).day = (CivilDate.ofDayNumber u.day).day ∧
      (t.second / 3600 < u.second / 3600 ∨ t.second / 3600 = u.second / 3600 ∧
      (t.second / 60 % 60 < u.second / 60 % 60 ∨ t.second / 60 % 60 = u.second / 60 % 60 ∧
      (t.writtenSecond < u.writtenSecond ∨ t.writtenSecond = u.writtenSecond ∧
        fractionText t.writtenNano ++ ['Z'] < fractionText u.writtenNano ++ ['Z']))))) := by
  obtain ⟨hmonth, hday⟩ := CivilDate.ofDayNumber_lt_hundred t.day
  obtain ⟨hmonth', hday'⟩ := CivilDate.ofDayNumber_lt_hundred u.day
  have hhour : t.second / 3600 < 10 ^ 2 ∧ u.second / 3600 < 10 ^ 2 := by
    have := ht.second_lt
    have := hu.second_lt
    omega
  have hminute (s : Nat) : s / 60 % 60 < 10 ^ 2 := by omega
  have hsecond (t : Timestamp) : t.writtenSecond < 10 ^ 2 := by
    unfold writtenSecond
    split <;> omega
  have hyear : yearText t.year = yearText u.year ↔ t.year = u.year :=
    ⟨eq_of_yearText_eq, congrArg yearText⟩
  rw [String.lt_iff, toList_text, toList_text, yearText_append_lt_iff, hyear]
  rw [padded_append_lt_iff (by decide) hmonth hmonth', List.cons_lt_cons_self,
    padded_append_lt_iff (by decide) hday hday', List.cons_lt_cons_self,
    padded_append_lt_iff (by decide) hhour.1 hhour.2, List.cons_lt_cons_self,
    padded_append_lt_iff (by decide) (hminute _) (hminute _), List.cons_lt_cons_self]
  exact or_congr_right (and_congr_right fun _ => or_congr_right (and_congr_right fun _ =>
    or_congr_right (and_congr_right fun _ => or_congr_right (and_congr_right fun _ =>
    or_congr_right (and_congr_right fun _ =>
      padded_append_lt_iff (by decide) (hsecond t) (hsecond u))))))

lemma unit_cases (n : Nat) :
    unit n = 1000000000 ∨ unit n = 1000000 ∨ unit n = 1000 ∨ unit n = 1 := by
  unfold unit
  split
  · exact .inl rfl
  split
  · exact .inr (.inl rfl)
  split
  · exact .inr (.inr (.inl rfl))
  · exact .inr (.inr (.inr rfl))

/-- A leap second has the fraction of its second. -/
lemma unit_sub {n : Nat} (h : 1000000000 ≤ n) : unit (n - 1000000000) = unit n := by
  have hmod : (n - 1000000000) % 1000000000 = n % 1000000000 ∧
      (n - 1000000000) % 1000000 = n % 1000000 ∧ (n - 1000000000) % 1000 = n % 1000 := by
    omega
  rw [unit, unit, hmod.1, hmod.2.1, hmod.2.2]

/-- Points of one second are in the order of their texts unless one cuts the other off. -/
lemma writtenFraction_lt_iff (hu : u.WellFormed) (hsecond : t.second = u.second)
    (h : t.nano < u.nano) :
    (t.writtenSecond < u.writtenSecond ∨ t.writtenSecond = u.writtenSecond ∧
      fractionText t.writtenNano ++ ['Z'] < fractionText u.writtenNano ++ ['Z']) ↔
      t.nano ≠ u.nano / unit t.nano * unit t.nano := by
  have hbound := hu.nano_lt
  unfold writtenSecond writtenNano
  rw [hsecond]
  by_cases hleap : 1000000000 ≤ t.nano
  · -- Both are in the leap second.
    have hleap' : 1000000000 ≤ u.nano := by omega
    have hshift : (u.nano - 1000000000) / unit t.nano * unit t.nano + 1000000000 =
        u.nano / unit t.nano * unit t.nano := by
      rcases unit_cases t.nano with hunit | hunit | hunit | hunit <;> rw [hunit] <;> omega
    rw [if_pos hleap, if_pos hleap', if_pos hleap, if_pos hleap',
      fractionText_append_lt_iff (by omega) (by omega), unit_sub hleap]
    omega
  · by_cases hleap' : 1000000000 ≤ u.nano
    · have hwhole : 1000000000 ≤ u.nano / unit t.nano * unit t.nano := by
        rcases unit_cases t.nano with hunit | hunit | hunit | hunit <;> rw [hunit] <;> omega
      rw [if_neg hleap, if_pos hleap']
      exact iff_of_true (.inl (Nat.lt_succ_self _)) (by omega)
    · rw [if_neg hleap, if_neg hleap', if_neg hleap, if_neg hleap',
        fractionText_append_lt_iff (by omega) h]
      simp

/-- **An earlier point has the smaller text unless its year is written otherwise or it cuts the
later one off.** -/
theorem text_lt_iff (ht : t.WellFormed) (hu : u.WellFormed) (h : t.Before u) :
    t.text < u.text ↔ yearText t.year < yearText u.year ∨ t.year = u.year ∧ ¬t.CutsOff u := by
  rw [text_lt_iff_fields ht hu]
  refine or_congr_right (and_congr_right fun hyear => ?_)
  rcases h with hday | ⟨hday, hsecond | ⟨hsecond, hnano⟩⟩
  · have hdate := (CivilDate.ofDayNumber_before hday).resolve_left fun hlt => hlt.ne hyear
    refine iff_of_true ?_ fun hcut => hday.ne hcut.1
    exact hdate.2.imp_right fun h => ⟨h.1, .inl h.2⟩
  · rw [hday]
    refine iff_of_true (.inr ⟨rfl, .inr ⟨rfl, ?_⟩⟩) fun hcut => hsecond.ne hcut.2.1
    have hwritten : t.second / 60 = u.second / 60 → t.writtenSecond < u.writtenSecond := by
      have hleap := ht.leap
      unfold writtenSecond
      intro hminute
      split <;> split <;> omega
    omega
  · rw [hday, hsecond]
    have hcut : t.CutsOff u ↔ t.nano = u.nano / unit t.nano * unit t.nano :=
      ⟨fun h => h.2.2, fun h => ⟨hday, hsecond, h⟩⟩
    rw [hcut, ← ne_eq, ← writtenFraction_lt_iff hu hsecond hnano]
    simp

/-- In years of four digits only a cut is out of order. -/
lemma text_lt_iff_of_hasPlainYear (ht : t.WellFormed) (hu : u.WellFormed) (h : t.Before u)
    (hyear : t.HasPlainYear) (hyear' : u.HasPlainYear) : t.text < u.text ↔ ¬t.CutsOff u := by
  have hcut : t.CutsOff u → t.year = u.year := fun hcut => by rw [year, year, hcut.1]
  have hle : t.year ≤ u.year := by
    rcases h with hday | ⟨hday, -⟩
    · rcases CivilDate.ofDayNumber_before hday with hlt | ⟨hsame, -⟩
      · exact hlt.le
      · exact hsame.le
    · rw [year, year, hday]
  rw [text_lt_iff ht hu h]
  rcases hle.lt_or_eq with hlt | hsame
  · exact iff_of_true (.inl (yearText_lt_of_plain hyear.1 hyear'.2 hlt)) fun h => hlt.ne (hcut h)
  · rw [hsame]
    simp

end Timestamp

end CriteriaSearch
