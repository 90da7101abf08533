import CriteriaSearch.Timestamp.Calendar
import Mathlib.Tactic.Common

/-!
# The calendar, both ways

Days are counted from dates and dates are read off the count.  The two undo each other
(`toDayNumber_ofDayNumber`), and the date of a day is one that the calendar has
(`valid_ofDayNumber`).

The count runs in eras of 400 years and, inside an era, in years from March to February.  The year
of a day is a quotient with three corrections.  It never decreases from one day to the next
(`yearOfEra_mono`), so it is right for every day of a year once it is right for the first and the
last one (`yearOfEra_ends`).
-/

namespace CriteriaSearch.CivilDate

/-! ## Years of an era -/

/-- The year of an era that a day of the era falls in. -/
def yearOfEra (d : Int) : Int :=
  (d - d / 1460 + d / 36524 - d / 146096) / 365

/-- The day of an era on which a year of the era starts. -/
def yearStart (y : Int) : Int :=
  365 * y + y / 4 - y / 100

/-- How many days a year of an era has: the year ends with the February of the next one. -/
def yearLength (y : Int) : Int :=
  if isLeapYear (y + 1) then 366 else 365

lemma yearOfEra_mono {d e : Int} (h : d ≤ e) : yearOfEra d ≤ yearOfEra e := by
  have hquads : d - d / 1460 ≤ e - e / 1460 := by omega
  have hcenturies : d / 36524 ≤ e / 36524 := Int.ediv_le_ediv (by decide) h
  have heras : d / 36524 - d / 36524 / 4 ≤ e / 36524 - e / 36524 / 4 := by omega
  have hsplit : ∀ n : Int, n / 146096 = n / 36524 / 4 := by
    intro n
    rw [Int.ediv_ediv_of_nonneg (by decide)]
    rfl
  refine Int.ediv_le_ediv (by decide) ?_
  rw [hsplit d, hsplit e]
  omega

/-- A year of an era holds its first day and its last one. -/
lemma yearOfEra_ends : ∀ y : Fin 400,
    yearOfEra (yearStart y) = y ∧ yearOfEra (yearStart y + yearLength y - 1) = y := by
  decide +kernel

lemma yearStart_succ {y : Int} (h0 : 0 ≤ y) (h : y < 399) :
    yearStart (y + 1) = yearStart y + yearLength y := by
  unfold yearStart yearLength isLeapYear
  simp only [Bool.and_eq_true, beq_iff_eq, Bool.or_eq_true, bne_iff_ne]
  split <;> omega

lemma yearOfEra_yearStart {y : Int} (h0 : 0 ≤ y) (h : y < 400) : yearOfEra (yearStart y) = y := by
  obtain ⟨n, rfl⟩ := Int.eq_ofNat_of_zero_le h0
  exact (yearOfEra_ends ⟨n, by omega⟩).1

lemma yearOfEra_yearEnd {y : Int} (h0 : 0 ≤ y) (h : y < 400) :
    yearOfEra (yearStart y + yearLength y - 1) = y := by
  obtain ⟨n, rfl⟩ := Int.eq_ofNat_of_zero_le h0
  exact (yearOfEra_ends ⟨n, by omega⟩).2

/-- **Every day of an era lies within its year.** -/
lemma yearStart_le_and_lt {d : Int} (h0 : 0 ≤ d) (h : d < 146097) :
    0 ≤ yearOfEra d ∧ yearOfEra d < 400 ∧ yearStart (yearOfEra d) ≤ d ∧
      d < yearStart (yearOfEra d) + yearLength (yearOfEra d) := by
  have hlow : 0 ≤ yearOfEra d := yearOfEra_mono (d := 0) h0
  have hhigh : yearOfEra d < 400 := by
    have := yearOfEra_mono (d := d) (e := 146096) (by omega)
    have hlast : yearOfEra 146096 = 399 := by decide
    omega
  refine ⟨hlow, hhigh, ?_, ?_⟩
  · by_contra hlt
    -- A day before the start of its year would be a day of the year before.
    have hpos : 0 < yearOfEra d := by
      by_contra hle
      have hzero : yearOfEra d = 0 := by omega
      rw [hzero] at hlt
      exact hlt h0
    have hstart := yearStart_succ (y := yearOfEra d - 1) (by omega) (by omega)
    have hend := yearOfEra_yearEnd (y := yearOfEra d - 1) (by omega) (by omega)
    have hmono := yearOfEra_mono
      (d := d) (e := yearStart (yearOfEra d - 1) + yearLength (yearOfEra d - 1) - 1)
    rw [Int.sub_add_cancel] at hstart
    rw [hend] at hmono
    omega
  · by_contra hge
    -- A day after the end of its year would be a day of the year after.
    rcases Int.lt_or_le (yearOfEra d) 399 with hlt | hle
    · have hstart := yearStart_succ hlow hlt
      have hnext := yearOfEra_yearStart (y := yearOfEra d + 1) (by omega) (by omega)
      have hmono := yearOfEra_mono (d := yearStart (yearOfEra d + 1)) (e := d)
      rw [hnext] at hmono
      omega
    · have hlast : yearOfEra d = 399 := by omega
      rw [hlast] at hge
      have hend : yearStart 399 + yearLength 399 = 146097 := by decide
      omega

/-! ## Days of a year -/

/-- The date of a day of a year that starts in March. -/
def ofMarch (year dayOfYear : Int) : CivilDate :=
  let monthFromMarch := (5 * dayOfYear + 2) / 153
  let month := if monthFromMarch < 10 then monthFromMarch + 3 else monthFromMarch - 9
  { year := year + (if month ≤ 2 then 1 else 0)
    month := month.toNat
    day := (dayOfYear - (153 * monthFromMarch + 2) / 5 + 1).toNat }

lemma ofDayNumber_eq (n : Int) :
    ∃ era y dayOfYear, n = era * 146097 + yearStart y + dayOfYear - 719468 ∧ 0 ≤ y ∧ y < 400 ∧
      0 ≤ dayOfYear ∧ dayOfYear < yearLength y ∧
      ofDayNumber n = ofMarch (y + era * 400) dayOfYear := by
  obtain ⟨hlow, hhigh, hstart, hend⟩ := yearStart_le_and_lt
    (Int.emod_nonneg (n + 719468) (by decide)) (Int.emod_lt_of_pos (n + 719468) (by decide))
  have hsplit := Int.mul_ediv_add_emod (n + 719468) 146097
  exact ⟨(n + 719468) / 146097, yearOfEra ((n + 719468) % 146097),
    (n + 719468) % 146097 - yearStart (yearOfEra ((n + 719468) % 146097)),
    by omega, hlow, hhigh, by omega, by omega, rfl⟩

lemma yearLength_le (y : Int) : yearLength y ≤ 366 := by
  unfold yearLength
  split <;> omega

lemma toDayNumber_ofMarch {era y dayOfYear : Int} (hy : 0 ≤ y) (hy' : y < 400)
    (hd : 0 ≤ dayOfYear) (hd' : dayOfYear < 366) :
    (ofMarch (y + era * 400) dayOfYear).toDayNumber =
      era * 146097 + yearStart y + dayOfYear - 719468 := by
  have hmonth : 0 ≤ (5 * dayOfYear + 2) / 153 ∧ (5 * dayOfYear + 2) / 153 ≤ 11 := by omega
  have hday : 0 ≤ dayOfYear - (153 * ((5 * dayOfYear + 2) / 153) + 2) / 5 := by omega
  unfold ofMarch toDayNumber yearStart
  dsimp only
  generalize (5 * dayOfYear + 2) / 153 = m at *
  have hera : (y + era * 400) / 400 = era ∧ (y + era * 400) % 400 = y := by omega
  by_cases hm : m < 10
  · have hlate : ¬m + 3 ≤ 2 := by omega
    have hlate' : ¬(m + 3).toNat ≤ 2 := by omega
    have hfrom : (((m + 3).toNat + 9) % 12 : Nat) = m := by omega
    simp only [if_pos hm, if_neg hlate, if_neg hlate', hfrom, Int.add_zero, hera]
    omega
  · have hearly : m - 9 ≤ 2 := by omega
    have hearly' : (m - 9).toNat ≤ 2 := by omega
    have hfrom : (((m - 9).toNat + 9) % 12 : Nat) = m := by omega
    simp only [if_neg hm, if_pos hearly, if_pos hearly', hfrom, Int.add_sub_cancel, hera]
    omega

/-- **Counting the days and reading the date of a day undo each other.** -/
theorem toDayNumber_ofDayNumber (n : Int) : (ofDayNumber n).toDayNumber = n := by
  obtain ⟨era, y, dayOfYear, hn, hy, hy', hd, hd', heq⟩ := ofDayNumber_eq n
  have := yearLength_le y
  rw [heq, toDayNumber_ofMarch hy hy' hd (by omega), hn]

/-- The months and days of a year with a leap day, which is the last day of the year. -/
lemma ofMarch_days : ∀ d : Fin 366,
    let date := ofMarch 1999 d
    1 ≤ date.month ∧ date.month ≤ 12 ∧ 1 ≤ date.day ∧ date.day ≤ daysInMonth 2000 date.month ∧
      (date.month = 2 → date.day = 29 → d = 365) := by
  decide +kernel

lemma ofMarch_day_le {year dayOfYear : Int} (hd : 0 ≤ dayOfYear) (hd' : dayOfYear < 366)
    (hleap : dayOfYear = 365 → isLeapYear (year + 1) = true) :
    let date := ofMarch year dayOfYear
    1 ≤ date.month ∧ date.month ≤ 12 ∧ 1 ≤ date.day ∧
      date.day ≤ daysInMonth date.year date.month := by
  intro date
  obtain ⟨k, rfl⟩ := Int.eq_ofNat_of_zero_le hd
  -- Neither the month nor the day depends on the year.
  obtain ⟨hmonth, hmonth', hday, hday', hlast⟩ :
      1 ≤ date.month ∧ date.month ≤ 12 ∧ 1 ≤ date.day ∧ date.day ≤ daysInMonth 2000 date.month ∧
        (date.month = 2 → date.day = 29 → (⟨k, by omega⟩ : Fin 366) = 365) :=
    ofMarch_days ⟨k, by omega⟩
  refine ⟨hmonth, hmonth', hday, ?_⟩
  by_cases hfeb : date.month = 2
  · have hyear : date.year = year + 1 := by
      have hsmall : ((if (5 * (k : Int) + 2) / 153 < 10 then (5 * (k : Int) + 2) / 153 + 3
          else (5 * (k : Int) + 2) / 153 - 9)) ≤ 2 := by
        have : date.month ≤ 2 := by omega
        exact Int.toNat_le.1 this
      exact congrArg (year + ·) (if_pos hsmall)
    have hdays : daysInMonth 2000 2 = 29 := by decide
    rw [hfeb, hdays] at hday'
    rw [hfeb, hyear, daysInMonth, if_pos rfl]
    by_cases hk : k = 365
    · rw [if_pos (hleap (by omega))]
      exact hday'
    · have : date.day ≠ 29 := fun h => hk (congrArg Fin.val (hlast hfeb h))
      split <;> omega
  · rw [daysInMonth, if_neg hfeb] at hday' ⊢
    exact hday'

/-- **Every day within the range of years has a date of the calendar.** -/
theorem valid_ofDayNumber {n : Int} (hmin : minYear ≤ (ofDayNumber n).year)
    (hmax : (ofDayNumber n).year ≤ maxYear) : (ofDayNumber n).Valid := by
  refine ⟨hmin, hmax, ?_⟩
  obtain ⟨era, y, dayOfYear, -, hy, hy', hd, hd', heq⟩ := ofDayNumber_eq n
  have hlength := yearLength_le y
  have hleap : dayOfYear = 365 → isLeapYear (y + era * 400 + 1) = true := by
    intro hlast
    have hyear : isLeapYear (y + 1) = true := by
      by_contra hcommon
      rw [yearLength, if_neg hcommon] at hd'
      omega
    simp only [isLeapYear, Bool.and_eq_true, beq_iff_eq, Bool.or_eq_true, bne_iff_ne] at hyear ⊢
    omega
  rw [heq]
  exact ofMarch_day_le hd (by omega) hleap

end CriteriaSearch.CivilDate
