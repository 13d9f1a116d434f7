import CarRental.Lib.DecimalText

/-!
# Instants as ISO dates

An instant is a number of milliseconds since the start of 1970, and `toISOString` its text in UTC.

The days are counted in eras of 400 years whose years start in March, so that a leap day is the
last of its year.  A date of the calendar tells the day it is (`daysOfCivil_civilOfDays`), so
that the text tells the instant (`toISOString_inj`).
-/

namespace CivilDate

open DecimalText

/-! ## The calendar -/

/-- A day of the Gregorian calendar. -/
@[ext]
structure Civil where
  year : ℤ
  month : ℤ
  day : ℤ
deriving DecidableEq

/-- A day in its era: the year of the era and the day of the year, from March 1st on. -/
def yearOfEra (dayOfEra : ℤ) : ℤ :=
  (dayOfEra - dayOfEra / 1460 + dayOfEra / 36524 - dayOfEra / 146096) / 365

def daysBefore (year : ℤ) : ℤ := 365 * year + year / 4 - year / 100

def dayOfYear (dayOfEra : ℤ) : ℤ := dayOfEra - daysBefore (yearOfEra dayOfEra)

def monthFromMarch (dayOfYear : ℤ) : ℤ := (5 * dayOfYear + 2) / 153

def daysBeforeMonth (month : ℤ) : ℤ := (153 * month + 2) / 5

def dayOfEra (days : ℤ) : ℤ := (days + 719468) % 146097

def civilOfDays (days : ℤ) : Civil :=
  let year := yearOfEra (dayOfEra days) + (days + 719468) / 146097 * 400
  let inYear := dayOfYear (dayOfEra days)
  let month := monthFromMarch inYear
  { year := if month < 10 then year else year + 1
    month := if month < 10 then month + 3 else month - 9
    day := inYear - daysBeforeMonth month + 1 }

def daysOfCivil (date : Civil) : ℤ :=
  let year := if 3 ≤ date.month then date.year else date.year - 1
  let month := if 3 ≤ date.month then date.month - 3 else date.month + 9
  year / 400 * 146097 + daysBefore (year % 400) + daysBeforeMonth month + date.day - 1 - 719468

theorem dayOfEra_bounds (days : ℤ) : 0 ≤ dayOfEra days ∧ dayOfEra days < 146097 := by
  unfold dayOfEra
  omega

theorem yearOfEra_bounds {day : ℤ} (h : 0 ≤ day ∧ day < 146097) :
    0 ≤ yearOfEra day ∧ yearOfEra day < 400 := by
  unfold yearOfEra
  omega

theorem century_cases {day : ℤ} (h : 0 ≤ day ∧ day < 146097) :
    day / 36524 = 0 ∨ day / 36524 = 1 ∨ day / 36524 = 2 ∨ day / 36524 = 3 ∨ day / 36524 = 4 := by
  omega

theorem century_yearOfEra {day : ℤ} (h : 0 ≤ day ∧ day < 146097) :
    yearOfEra day / 100 = min 3 (day / 36524) := by
  unfold yearOfEra
  rcases century_cases h with hcentury | hcentury | hcentury | hcentury | hcentury
  · rw [hcentury]
    omega
  · rw [hcentury]
    omega
  · rw [hcentury]
    omega
  · rw [hcentury]
    omega
  · rw [hcentury]
    omega

theorem dayOfYear_bounds {day : ℤ} (h : 0 ≤ day ∧ day < 146097) :
    0 ≤ dayOfYear day ∧ dayOfYear day < 366 := by
  have hyear := century_yearOfEra h
  unfold dayOfYear daysBefore
  rw [hyear]
  clear hyear
  unfold yearOfEra
  -- the days of a century before the year are counted in cycles of four years
  rcases century_cases h with hcentury | hcentury | hcentury | hcentury | hcentury
  · rw [hcentury]
    omega
  · rw [hcentury]
    omega
  · rw [hcentury]
    omega
  · rw [hcentury]
    omega
  · rw [hcentury]
    omega

theorem monthFromMarch_bounds {day : ℤ} (h : 0 ≤ day ∧ day < 366) :
    0 ≤ monthFromMarch day ∧ monthFromMarch day < 12 := by
  unfold monthFromMarch
  omega

theorem dayOfMonth_bounds (day : ℤ) :
    0 ≤ day - daysBeforeMonth (monthFromMarch day) ∧
      day - daysBeforeMonth (monthFromMarch day) < 31 := by
  unfold monthFromMarch daysBeforeMonth
  omega

theorem civilOfDays_bounds (days : ℤ) :
    1 ≤ (civilOfDays days).month ∧ (civilOfDays days).month ≤ 12 ∧
      1 ≤ (civilOfDays days).day ∧ (civilOfDays days).day ≤ 31 := by
  have hyear := dayOfYear_bounds (dayOfEra_bounds days)
  have hmonth := monthFromMarch_bounds hyear
  have hday := dayOfMonth_bounds (dayOfYear (dayOfEra days))
  simp only [civilOfDays]
  split <;> omega

theorem daysOfCivil_civilOfDays (days : ℤ) : daysOfCivil (civilOfDays days) = days := by
  have hera := dayOfEra_bounds days
  have hyear := yearOfEra_bounds hera
  have hmonth := monthFromMarch_bounds (dayOfYear_bounds hera)
  have hday : dayOfYear (dayOfEra days) = dayOfEra days - daysBefore (yearOfEra (dayOfEra days)) :=
    rfl
  have hdays : dayOfEra days = (days + 719468) % 146097 := rfl
  have hcycle : (yearOfEra (dayOfEra days) + (days + 719468) / 146097 * 400) / 400 =
      (days + 719468) / 146097 := by omega
  have hrest : (yearOfEra (dayOfEra days) + (days + 719468) / 146097 * 400) % 400 =
      yearOfEra (dayOfEra days) := by omega
  simp only [civilOfDays, daysOfCivil]
  by_cases hlate : monthFromMarch (dayOfYear (dayOfEra days)) < 10
  · simp only [if_pos hlate]
    split
    · rw [hcycle, hrest, add_sub_cancel_right]
      omega
    · omega
  · simp only [if_neg hlate]
    split
    · omega
    · rw [add_sub_cancel_right, hcycle, hrest, sub_add_cancel]
      omega

theorem civilOfDays_inj {days days' : ℤ} (h : civilOfDays days = civilOfDays days') :
    days = days' := by
  rw [← daysOfCivil_civilOfDays days, h, daysOfCivil_civilOfDays]

/-! ## Texts -/

/-- The instants that have a date. -/
def ValidTime (time : ℤ) : Prop := -8640000000000000 ≤ time ∧ time ≤ 8640000000000000

instance (time : ℤ) : Decidable (ValidTime time) := inferInstanceAs (Decidable (_ ∧ _))

/-- Four digits, or a sign and six for a year outside of them. -/
def yearText (year : ℤ) : List Char :=
  if 0 ≤ year ∧ year ≤ 9999 then digitList 4 year.toNat
  else (if year < 0 then '-' else '+') :: digitList 6 year.natAbs

def dateText (date : Civil) : List Char :=
  yearText date.year ++ '-' :: digitList 2 date.month.toNat ++ '-' :: digitList 2 date.day.toNat

def dayOf (time : ℤ) : ℤ := time / 86400000

def hourOf (time : ℤ) : ℤ := time % 86400000 / 3600000

def minuteOf (time : ℤ) : ℤ := time % 3600000 / 60000

def secondOf (time : ℤ) : ℤ := time % 60000 / 1000

def millisecondOf (time : ℤ) : ℤ := time % 1000

def hourText (time : ℤ) : List Char :=
  dateText (civilOfDays (dayOf time)) ++ 'T' :: digitList 2 (hourOf time).toNat

def minuteText (time : ℤ) : List Char := digitList 2 (minuteOf time).toNat

def secondText (time : ℤ) : List Char :=
  digitList 2 (secondOf time).toNat ++ '.' :: digitList 3 (millisecondOf time).toNat ++ ['Z']

def toISOString (time : ℤ) : String :=
  String.ofList (hourText time ++ ':' :: minuteText time ++ ':' :: secondText time)

example : toISOString 1709210096789 = "2024-02-29T12:34:56.789Z" := by decide +kernel

/-! ### Reading a text -/

theorem not_mem_digitList {c : Char} (hc : c.isDigit = false) (width n : ℕ) :
    c ∉ digitList width n := by
  intro h
  rw [isDigit_of_mem_digitList h] at hc
  cases hc

theorem yearText_inj {year year' : ℤ} (hyear : year.natAbs < 10 ^ 6)
    (hyear' : year'.natAbs < 10 ^ 6) (h : yearText year = yearText year') : year = year' := by
  have hlength := congrArg List.length h
  unfold yearText at h hlength
  by_cases hshort : 0 ≤ year ∧ year ≤ 9999
  · by_cases hshort' : 0 ≤ year' ∧ year' ≤ 9999
    · rw [if_pos hshort, if_pos hshort'] at h
      have hdigits := digitList_inj (by omega) (by omega) h
      omega
    · rw [if_pos hshort, if_neg hshort'] at hlength
      simp at hlength
  · by_cases hshort' : 0 ≤ year' ∧ year' ≤ 9999
    · rw [if_neg hshort, if_pos hshort'] at hlength
      simp at hlength
    · rw [if_neg hshort, if_neg hshort'] at h
      have hdigits := digitList_inj hyear hyear' (List.tail_eq_of_cons_eq h)
      have hsign := List.head_eq_of_cons_eq h
      split at hsign
      · split at hsign
        · omega
        · cases hsign
      · split at hsign
        · cases hsign
        · omega

theorem dateText_inj {date date' : Civil} (hyear : date.year.natAbs < 10 ^ 6)
    (hyear' : date'.year.natAbs < 10 ^ 6)
    (hmonth : 1 ≤ date.month ∧ date.month ≤ 12 ∧ 1 ≤ date.day ∧ date.day ≤ 31)
    (hmonth' : 1 ≤ date'.month ∧ date'.month ≤ 12 ∧ 1 ≤ date'.day ∧ date'.day ≤ 31)
    (h : dateText date = dateText date') : date = date' := by
  have hsep : '-'.isDigit = false := by decide
  obtain ⟨hfront, hday⟩ := split_inj_right (not_mem_digitList hsep _ _)
    (not_mem_digitList hsep _ _) h
  obtain ⟨hyears, hmonths⟩ := split_inj_right (not_mem_digitList hsep _ _)
    (not_mem_digitList hsep _ _) hfront
  have heqYear := yearText_inj hyear hyear' hyears
  have heqMonth := digitList_inj (by omega) (by omega) hmonths
  have heqDay := digitList_inj (by omega) (by omega) hday
  exact Civil.ext heqYear (by omega) (by omega)

theorem year_bounds {time : ℤ} (h : ValidTime time) :
    (civilOfDays (dayOf time)).year.natAbs < 10 ^ 6 := by
  have hyear := yearOfEra_bounds (dayOfEra_bounds (dayOf time))
  obtain ⟨hfrom, hto⟩ := h
  simp only [civilOfDays]
  unfold dayOf at hyear ⊢
  split <;> omega

theorem time_eq_parts (time : ℤ) :
    time = dayOf time * 86400000 + hourOf time * 3600000 + minuteOf time * 60000 +
      secondOf time * 1000 + millisecondOf time := by
  unfold dayOf hourOf minuteOf secondOf millisecondOf
  omega

theorem hourOf_bounds (time : ℤ) : 0 ≤ hourOf time ∧ hourOf time < 24 := by
  unfold hourOf
  omega

theorem minuteOf_bounds (time : ℤ) : 0 ≤ minuteOf time ∧ minuteOf time < 60 := by
  unfold minuteOf
  omega

theorem secondOf_bounds (time : ℤ) : 0 ≤ secondOf time ∧ secondOf time < 60 := by
  unfold secondOf
  omega

theorem millisecondOf_bounds (time : ℤ) : 0 ≤ millisecondOf time ∧ millisecondOf time < 1000 := by
  unfold millisecondOf
  omega

theorem digitList_toNat_inj {width : ℕ} {n m : ℤ} (hn : 0 ≤ n ∧ n < 10 ^ width)
    (hm : 0 ≤ m ∧ m < 10 ^ width) (h : digitList width n.toNat = digitList width m.toNat) :
    n = m := by
  have hcast : ((10 ^ width : ℕ) : ℤ) = 10 ^ width := by push_cast; rfl
  have hdigits := digitList_inj (by omega) (by omega) h
  omega

theorem texts_inj {time time' : ℤ} (hvalid : ValidTime time) (hvalid' : ValidTime time')
    (hhour : hourText time = hourText time') (hminute : minuteText time = minuteText time')
    (hsecond : secondText time = secondText time') : time = time' := by
  have hdigits : ∀ width n, 'T' ∉ digitList width n := not_mem_digitList (by decide)
  obtain ⟨hdate, hhours⟩ : dateText (civilOfDays (dayOf time)) =
        dateText (civilOfDays (dayOf time')) ∧
      digitList 2 (hourOf time).toNat = digitList 2 (hourOf time').toNat :=
    split_inj_right (hdigits _ _) (hdigits _ _) hhour
  have hcivil := dateText_inj (year_bounds hvalid) (year_bounds hvalid')
    (civilOfDays_bounds _) (civilOfDays_bounds _) hdate
  have hday : dayOf time = dayOf time' := civilOfDays_inj hcivil
  have hpoint : ∀ width n, '.' ∉ digitList width n := not_mem_digitList (by decide)
  have hparts := List.append_inj_left' hsecond rfl
  obtain ⟨hseconds, hmillis⟩ := split_inj_right (hpoint _ _) (hpoint _ _) hparts
  have hhourEq : hourOf time = hourOf time' := by
    have hbounds := hourOf_bounds time
    have hbounds' := hourOf_bounds time'
    exact digitList_toNat_inj (by omega) (by omega) hhours
  have hminuteEq : minuteOf time = minuteOf time' := by
    have hbounds := minuteOf_bounds time
    have hbounds' := minuteOf_bounds time'
    exact digitList_toNat_inj (by omega) (by omega) hminute
  have hsecondEq : secondOf time = secondOf time' := by
    have hbounds := secondOf_bounds time
    have hbounds' := secondOf_bounds time'
    exact digitList_toNat_inj (by omega) (by omega) hseconds
  have hmilliEq : millisecondOf time = millisecondOf time' := by
    have hbounds := millisecondOf_bounds time
    have hbounds' := millisecondOf_bounds time'
    exact digitList_toNat_inj (by omega) (by omega) hmillis
  rw [time_eq_parts time, hday, hhourEq, hminuteEq, hsecondEq, hmilliEq, ← time_eq_parts]

/-! ### Characters -/

theorem colon_not_mem_hourText (time : ℤ) : ':' ∉ hourText time := by
  have hdigits : ∀ width n, ':' ∉ digitList width n := not_mem_digitList (by decide)
  have hyear : ∀ year, ':' ∉ yearText year := by
    intro year
    unfold yearText
    split
    · exact hdigits _ _
    · rw [List.mem_cons, not_or]
      refine ⟨?_, hdigits _ _⟩
      split <;> decide
  simp [hourText, dateText, hdigits, hyear]

theorem colon_not_mem_minuteText (time : ℤ) : ':' ∉ minuteText time :=
  not_mem_digitList (by decide) _ _

theorem colon_not_mem_secondText (time : ℤ) : ':' ∉ secondText time := by
  have hdigits : ∀ width n, ':' ∉ digitList width n := not_mem_digitList (by decide)
  simp [secondText, hdigits]

end CivilDate
