import CriteriaSearch.Proofs.Calendar

/-!
# The calendar in order

A later day has a later date (`ofDayNumber_before`).  Inside a year that starts in March later days
are in later months or later in the same month, and the year that starts with the next January is
later still.
-/

namespace CriteriaSearch.CivilDate

/-- Whether a date is earlier than another, by year, month and day. -/
def Before (d e : CivilDate) : Prop :=
  d.year < e.year ∨ d.year = e.year ∧ (d.month < e.month ∨ d.month = e.month ∧ d.day < e.day)

/-! ## Years from March -/

/-- The date of a day, by whether the year has changed since March. -/
lemma ofMarch_cases (year : Int) {d : Int} (hd : 0 ≤ d) (hd' : d < 366) :
    ∃ m, m = (5 * d + 2) / 153 ∧ ((ofMarch year d).day : Int) = d - (153 * m + 2) / 5 + 1 ∧
      (m < 10 ∧ (ofMarch year d).year = year ∧ ((ofMarch year d).month : Int) = m + 3 ∨
        10 ≤ m ∧ (ofMarch year d).year = year + 1 ∧ ((ofMarch year d).month : Int) = m - 9) := by
  have hmonth : 0 ≤ (5 * d + 2) / 153 ∧ (5 * d + 2) / 153 ≤ 11 := by omega
  have hday : 0 ≤ d - (153 * ((5 * d + 2) / 153) + 2) / 5 := by omega
  refine ⟨_, rfl, ?_, ?_⟩
  · exact Int.toNat_of_nonneg (by omega)
  unfold ofMarch
  dsimp only
  generalize (5 * d + 2) / 153 = m at *
  by_cases hm : m < 10
  · have hlate : ¬m + 3 ≤ 2 := by omega
    simp only [if_pos hm, if_neg hlate]
    exact .inl ⟨hm, Int.add_zero year, Int.toNat_of_nonneg (by omega)⟩
  · have hearly : m - 9 ≤ 2 := by omega
    simp only [if_neg hm, if_pos hearly]
    exact .inr ⟨by omega, trivial, Int.toNat_of_nonneg (by omega)⟩

variable {d e : Int}

/-- The days of a year that starts in March are in order. -/
lemma ofMarch_before (year : Int) (hd : 0 ≤ d) (he : e < 366) (h : d < e) :
    (ofMarch year d).Before (ofMarch year e) := by
  obtain ⟨m, hm, hday, hdate⟩ := ofMarch_cases year hd (Int.lt_trans h he)
  obtain ⟨n, hn, hday', hdate'⟩ := ofMarch_cases year (Int.le_trans hd (Int.le_of_lt h)) he
  have hmonths : m ≤ n := by omega
  have hdays : m = n → (ofMarch year d).day < (ofMarch year e).day := by
    rintro rfl
    omega
  unfold Before
  omega

/-- A year that starts in March is over before the next one starts. -/
lemma ofMarch_before_of_lt {year year' : Int} (hd : 0 ≤ d) (hd' : d < 366) (he : 0 ≤ e)
    (he' : e < 366) (h : year < year') : (ofMarch year d).Before (ofMarch year' e) := by
  obtain ⟨m, hm, -, hdate⟩ := ofMarch_cases year hd hd'
  obtain ⟨n, hn, -, hdate'⟩ := ofMarch_cases year' he he'
  unfold Before
  omega

/-! ## Eras -/

/-- Years of an era do not overlap. -/
lemma yearStart_add_le {y z : Int} (hy : 0 ≤ y) (hz : z < 400) (h : y < z) :
    yearStart y + yearLength y ≤ yearStart z := by
  rw [← yearStart_succ hy (by omega)]
  unfold yearStart
  omega

/-- An era holds its years. -/
lemma yearStart_add_le_era {y : Int} (hy : 0 ≤ y) (hy' : y < 400) :
    yearStart y + yearLength y ≤ 146097 := by
  rcases Int.lt_or_le y 399 with hlt | hle
  · have hlast : yearStart 399 = 145731 := by decide
    have := yearStart_add_le hy (z := 399) (by decide) hlt
    omega
  · obtain rfl : y = 399 := by omega
    decide

/-- **A later day has a later date.** -/
theorem ofDayNumber_before {m n : Int} (h : m < n) : (ofDayNumber m).Before (ofDayNumber n) := by
  obtain ⟨era, y, d, hm, hy, hy', hd, hd', heq⟩ := ofDayNumber_eq m
  obtain ⟨era', z, e, hn, hz, hz', he, he', heq'⟩ := ofDayNumber_eq n
  have hlength := yearLength_le y
  have hlength' := yearLength_le z
  have hera := yearStart_add_le_era hy hy'
  have hera' := yearStart_add_le_era hz hz'
  have hstart : 0 ≤ yearStart y := by unfold yearStart; omega
  have hstart' : 0 ≤ yearStart z := by unfold yearStart; omega
  rw [heq, heq']
  rcases Int.lt_trichotomy (y + era * 400) (z + era' * 400) with hlt | hsame | hgt
  · exact ofMarch_before_of_lt hd (by omega) he (by omega) hlt
  · obtain rfl : era = era' := by omega
    obtain rfl : y = z := by omega
    exact ofMarch_before _ hd (by omega) (by omega)
  · -- A day of a later year would not be the earlier one.
    have hoverlap : era = era' → yearStart z + yearLength z ≤ yearStart y := fun hsame =>
      yearStart_add_le hz hy' (by omega)
    omega

/-- Months and days have two digits. -/
lemma ofDayNumber_lt_hundred (n : Int) :
    (ofDayNumber n).month < 100 ∧ (ofDayNumber n).day < 100 := by
  obtain ⟨era, y, d, -, -, -, hd, hd', heq⟩ := ofDayNumber_eq n
  have hlength := yearLength_le y
  obtain ⟨m, hm, hday, hdate⟩ := ofMarch_cases (y + era * 400) hd (by omega)
  rw [heq]
  omega

end CriteriaSearch.CivilDate
