import Mathlib.Tactic.ByContra
import InfluxKeeper.Time.Calendar

/-!
# Days that are dates

Every number of days from the first of January of year 0 on gives a date of the calendar.

> `ofDays_exists`: the date of a number of days exists, unless it is in no year after year 0.

Years are counted from March within an era of 400 years, so a year has 366 days exactly if the next February is
that of a leap year (`yearStart_le`, `lt_yearStart`). Where the year of a day begins is a fact about 400 years,
which are checked; that no day is counted to another year follows since later days are in no earlier year
(`yearOf_mono`). The months of a year are a fact about its 366 days, which are checked too.
-/

namespace InfluxKeeper

namespace Calendar

/-- The year of its era that a day is in, by the number of the day in the era. -/
def yearOf (day : Int) : Int := (day - day / 1460 + day / 36524 - day / 146096) / 365

/-- The days of an era before a year of it. -/
def yearStart (year : Int) : Int := 365 * year + year / 4 - year / 100

/-! ## The year of a day -/

theorem yearOf_mono {a b : Int} (ha : 0 ≤ a) (hab : a ≤ b) (hb : b < 146097) :
    yearOf a ≤ yearOf b := by
  unfold yearOf
  have hdays : a - a / 1460 ≤ b - b / 1460 := by omega
  have hcenturies : a / 36524 - a / 146096 ≤ b / 36524 - b / 146096 := by omega
  omega

/-- The first day of a year is in that year, and the day before it is in the year before. -/
theorem yearOf_yearStart : ∀ year : Nat, year < 400 → yearOf (yearStart year) = year ∧
    (0 < year → yearOf (yearStart year - 1) = year - 1) := by
  decide +kernel

theorem yearStart_bounds {year : Int} (h : 0 ≤ year) (h' : year < 400) :
    0 ≤ yearStart year ∧ yearStart year < 146097 := by
  unfold yearStart
  omega

theorem yearOf_bounds {day : Int} (h : 0 ≤ day) (h' : day < 146097) :
    0 ≤ yearOf day ∧ yearOf day < 400 := by
  have hfirst := yearOf_mono (Int.le_refl 0) h h'
  have hlast := yearOf_mono h (show day ≤ 146096 by omega) (by decide)
  have h0 : yearOf 0 = 0 := by decide
  have h399 : yearOf 146096 = 399 := by decide
  omega

/-- The year of a day starts no later than that day. -/
theorem yearStart_le {day : Int} (h : 0 ≤ day) (h' : day < 146097) :
    yearStart (yearOf day) ≤ day := by
  obtain ⟨hlow, hhigh⟩ := yearOf_bounds h h'
  obtain ⟨year, hyear⟩ := Int.eq_ofNat_of_zero_le hlow
  by_contra hlt
  have hbounds := yearStart_bounds hlow hhigh
  have hmono := yearOf_mono h (show day ≤ yearStart (yearOf day) - 1 by omega) (by omega)
  rw [hyear] at hmono hlt
  rcases Nat.eq_zero_or_pos year with rfl | hpos
  · have hstart : yearStart (0 : Nat) = 0 := by decide
    omega
  · have hbefore := (yearOf_yearStart year (by omega)).2 hpos
    omega

/-- The year after that of a day starts later than that day, or the day is in the last year of its era. -/
theorem lt_yearStart {day : Int} (h : 0 ≤ day) (h' : day < 146097) :
    day < yearStart (yearOf day + 1) ∨ yearOf day = 399 := by
  obtain ⟨hlow, hhigh⟩ := yearOf_bounds h h'
  obtain ⟨year, hyear⟩ := Int.eq_ofNat_of_zero_le hlow
  by_contra hnot
  obtain ⟨hge, hlast⟩ := not_or.mp hnot
  have hbounds := yearStart_bounds (show 0 ≤ yearOf day + 1 by omega) (by omega)
  have hmono := yearOf_mono hbounds.1 (Int.not_lt.mp hge) h'
  have hnext := (yearOf_yearStart (year + 1) (by omega)).1
  rw [hyear] at hmono
  rw [Int.natCast_add, Int.natCast_one] at hnext
  omega

/-! ## The month of a day -/

/-- The month of a year from March on, by the number of a day in it. -/
def monthFromMarch (day : Int) : Int := (5 * day + 2) / 153

/-- The month of a year from January on. -/
def monthOf (day : Int) : Int :=
  if monthFromMarch day < 10 then monthFromMarch day + 3 else monthFromMarch day - 9

/-- The day of a month, by its number in a year from March on. -/
def dayOf (day : Int) : Int := day - (153 * monthFromMarch day + 2) / 5 + 1

/-- Every day of a year from March on is a day of a month, the last one only before the first of March of a leap
year. -/
theorem exists_monthDay : ∀ day : Nat, day < 366 →
    (Date.mk 4 (monthOf day).toNat (dayOf day).toNat).exists? = true ∧
      (day < 365 → (Date.mk 1 (monthOf day).toNat (dayOf day).toNat).exists? = true) := by
  decide +kernel

/-- The days after the 305th of a year from March on are in January and February. -/
theorem monthOf_le_two {day : Int} (h : 0 ≤ day) (h' : day < 366) :
    monthOf day ≤ 2 ↔ 306 ≤ day := by
  unfold monthOf monthFromMarch
  split <;> omega

end Calendar

namespace Date

open Calendar

/-- A date exists in all years of the same length or in none. -/
theorem exists_congr {year year' : Nat} (h : isLeapYear year = isLeapYear year') (month day : Nat) :
    (Date.mk year month day).exists? = (Date.mk year' month day).exists? := by
  unfold Date.exists? daysInMonth?
  rw [h]

/-- The date of a number of days, by the era, the year of the era, and the day of the year. -/
theorem ofDays_eq (days : Int) : ∃ era dayOfEra : Int, 0 ≤ dayOfEra ∧ dayOfEra < 146097 ∧
    days + 719468 = era * 146097 + dayOfEra ∧
    ofDays days =
      let day := dayOfEra - yearStart (yearOf dayOfEra)
      ⟨(yearOf dayOfEra + era * 400 + if monthOf day ≤ 2 then 1 else 0).toNat, (monthOf day).toNat,
        (dayOf day).toNat⟩ := by
  refine ⟨Int.fdiv (days + 719468) 146097,
    days + 719468 - Int.fdiv (days + 719468) 146097 * 146097, ?_, ?_, ?_, rfl⟩
  · rw [Int.fdiv_eq_ediv_of_nonneg _ (by decide)]; omega
  · rw [Int.fdiv_eq_ediv_of_nonneg _ (by decide)]; omega
  · omega

/-- The day of its year that a day of an era is, and which year has 366 of them. -/
theorem dayOfYear_bounds {day : Int} (h : 0 ≤ day) (h' : day < 146097) :
    0 ≤ day - yearStart (yearOf day) ∧ day - yearStart (yearOf day) < 366 ∧
      (day - yearStart (yearOf day) = 365 → (yearOf day + 1) % 4 = 0 ∧
        ((yearOf day + 1) % 100 ≠ 0 ∨ (yearOf day + 1) % 400 = 0)) := by
  have hbounds := yearOf_bounds h h'
  have hle := yearStart_le h h'
  have hlt := lt_yearStart h h'
  unfold yearStart at *
  generalize yearOf day = year at *
  -- a year more is a leap day more only every four years, and not every hundred
  have hfour : (year + 1) / 4 ≤ year / 4 + 1 := by omega
  have hcommon : (year + 1) % 4 ≠ 0 → (year + 1) / 4 = year / 4 := by omega
  have hhundred : year / 100 ≤ (year + 1) / 100 := by omega
  have hcentury : (year + 1) % 100 = 0 → (year + 1) / 100 = year / 100 + 1 := by omega
  refine ⟨by omega, by omega, fun hlast => ⟨?_, ?_⟩⟩
  · by_contra hnot
    have := hcommon hnot
    omega
  · by_contra hnot
    obtain ⟨hdivides, hnotFour⟩ := not_or.mp hnot
    have := hcentury (not_not.mp hdivides)
    omega

/-- **Days are dates.** -/
theorem ofDays_exists {days : Int} (h : (ofDays days).year ≠ 0) : (ofDays days).exists? = true := by
  obtain ⟨era, dayOfEra, hlow, hhigh, -, heq⟩ := ofDays_eq days
  obtain ⟨hday, hday', hleap⟩ := dayOfYear_bounds hlow hhigh
  obtain ⟨day, hn⟩ := Int.eq_ofNat_of_zero_le hday
  rw [heq] at h ⊢
  dsimp only at h ⊢
  rw [hn] at h hday hday' hleap ⊢
  obtain ⟨hinLeap, hinCommon⟩ := exists_monthDay day (by omega)
  generalize hyear : (yearOf dayOfEra + era * 400 + if monthOf day ≤ 2 then 1 else 0).toNat = year at h ⊢
  cases hl : isLeapYear year with
  | true => rw [exists_congr (hl.trans (by decide : true = isLeapYear 4))]; exact hinLeap
  | false =>
    rw [exists_congr (hl.trans (by decide : false = isLeapYear 1))]
    refine hinCommon ?_
    -- the 366th day is a 29th of February
    by_contra hlast
    obtain ⟨hfour, hcentury⟩ := hleap (by omega)
    rw [if_pos ((monthOf_le_two hday hday').mpr (by omega))] at hyear
    unfold isLeapYear at hl
    simp only [Bool.and_eq_false_iff, Bool.or_eq_false_iff, beq_eq_false_iff_ne, bne_eq_false_iff_eq] at hl
    omega

/-- Days before the first of January of year 10000 are in years of four digits. -/
theorem year_ofDays_le {days : Int} (h : days ≤ 2932896) : (ofDays days).year ≤ 9999 := by
  obtain ⟨era, dayOfEra, hlow, hhigh, hdays, heq⟩ := ofDays_eq days
  obtain ⟨hday, hday', -⟩ := dayOfYear_bounds hlow hhigh
  have hmonth := monthOf_le_two hday hday'
  have hyear := yearOf_bounds hlow hhigh
  rw [heq]
  dsimp only
  unfold yearStart at *
  generalize yearOf dayOfEra = year at *
  split <;> omega

end Date

end InfluxKeeper
