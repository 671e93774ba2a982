import Delivery.Instant.Basic
import Mathlib.Tactic.IntervalCases
set_option autoImplicit false

namespace Delivery.Date

def yearOfEra (dayOfEra : Int) : Int :=
  (dayOfEra - dayOfEra / 1460 + dayOfEra / 36524 - dayOfEra / 146096) / 365

def yearStart (yearOfEra : Int) : Int :=
  365 * yearOfEra + yearOfEra / 4 - yearOfEra / 100

def monthFromMarch (dayOfYear : Int) : Int :=
  (5 * dayOfYear + 2) / 153

def monthStart (monthFromMarch : Int) : Int :=
  (153 * monthFromMarch + 2) / 5

section Era

variable {day : Int}

-- The cycles of four years that have passed by the day are those that have passed by its year, or one more; the same
-- holds for centuries, of which the last day of the era is counted as one too many.
structure InYear (day year : Int) : Prop where
  era : 0 ≤ year ∧ year ≤ 399
  cycles : year / 4 ≤ day / 1460 ∧ day / 1460 ≤ year / 4 + 1
  centuries : year / 100 ≤ day / 36524 - day / 146096 ∧ day / 36524 - day / 146096 ≤ year / 100 + 1
  days : 365 * year ≤ day - day / 1460 + day / 36524 - day / 146096 ∧
    day - day / 1460 + day / 36524 - day / 146096 ≤ 365 * year + 364

theorem in_year (first : 0 ≤ day) (last : day < 146097) : InYear day (yearOfEra day) := by
  obtain ⟨year, named⟩ : ∃ year, year = yearOfEra day := ⟨_, rfl⟩
  rw [← named]
  rw [yearOfEra] at named
  have century : 0 ≤ day / 36524 ∧ day / 36524 ≤ 4 := by omega
  have era : 0 ≤ year ∧ year ≤ 399 := by omega
  have cycle : day / 1460 ≤ year / 4 + 1 := by omega
  have passed : day / 36524 - day / 146096 ≤ year / 100 + 1 := by omega
  have ends : day / 146096 = 0 ∨ day / 146096 = 1 := by omega
  have reached : year / 100 ≤ day / 36524 - day / 146096 := by
    rcases ends with none | one
    · omega
    · omega
  have begun : year / 4 ≤ day / 1460 := by omega
  exact ⟨era, ⟨begun, cycle⟩, ⟨reached, passed⟩, by omega, by omega⟩

theorem day_of_year_bounds {year : Int} (inYear : InYear day year) :
    0 ≤ day - yearStart year ∧ day - yearStart year ≤ 365 := by
  obtain ⟨era, cycles, centuries, days⟩ := inYear
  rw [yearStart]
  have ends : day / 146096 = 0 ∨ day / 146096 = 1 := by omega
  rcases ends with none | one <;> omega

-- A year has its 366th day, which is the leap day, only if the next one is a leap year.
theorem leap_day_of_leap_year {year : Int} (inYear : InYear day year) (leapDay : day - yearStart year = 365)
    (era : Int) : isLeapYear (year + era * 400 + 1) = true := by
  obtain ⟨bounds, cycles, centuries, days⟩ := inYear
  rw [yearStart] at leapDay
  have cycle : day / 1460 = year / 4 + 1 := by omega
  have passed : day / 36524 - day / 146096 = year / 100 := by omega
  have fourth : year % 4 = 3 := by omega
  have century : year % 100 ≠ 99 ∨ year = 399 := by omega
  simp only [isLeapYear, Bool.and_eq_true, Bool.or_eq_true, beq_iff_eq, bne_iff_ne]
  omega

end Era

def ofMonth (year : Int) (month day : Nat) : Date :=
  if month < 10 then ⟨year, month + 3, day⟩ else ⟨year + 1, month - 9, day⟩

section Year

variable {year dayOfYear : Int} {month day : Nat}

theorem to_days_of_month (bound : month < 12) : (ofMonth year month day).toDays =
    year / 400 * 146097 + yearStart (year % 400) + (monthStart month + day - 1) - 719468 := by
  have calendar : ((month : Int) + 3 + 9) % 12 = month := by omega
  by_cases spring : month < 10
  · simp only [ofMonth, if_pos spring, toDays, yearStart, monthStart]
    rw [if_neg (by omega)]
    push_cast
    rw [calendar]
    omega
  · simp only [ofMonth, if_neg spring, toDays, yearStart, monthStart]
    rw [if_pos (by omega), Int.add_sub_cancel]
    have january : (((month - 9 : Nat) : Int) + 9) % 12 = month := by omega
    rw [january]
    omega

theorem month_length_from_march (year : Int) (bound : month < 11) :
    (monthLength (ofMonth year month day).year (ofMonth year month day).month : Int) =
      monthStart (month + 1) - monthStart month := by
  interval_cases month <;> rfl

theorem month_bounds (first : 0 ≤ dayOfYear) (last : dayOfYear ≤ 365) : ∃ month day : Nat, month < 12 ∧
    monthFromMarch dayOfYear = month ∧ dayOfYear = monthStart month + day - 1 ∧ 1 ≤ day ∧
    dayOfYear < monthStart (month + 1) := by
  refine ⟨(monthFromMarch dayOfYear).toNat, (dayOfYear - monthStart (monthFromMarch dayOfYear) + 1).toNat, ?_⟩
  simp only [monthFromMarch, monthStart]
  omega

theorem of_month_day (year : Int) (month day : Nat) : (ofMonth year month day).day = day := by
  unfold ofMonth
  split <;> rfl

theorem of_month_valid (bound : month < 12) (positive : 1 ≤ day)
    (inMonth : monthStart month + day ≤ monthStart (month + 1)) (inYear : monthStart month + day ≤ 366)
    (leap : monthStart month + day = 366 → isLeapYear (year + 1) = true) : (ofMonth year month day).Valid := by
  by_cases february : month = 11
  · subst february
    have start : monthStart (11 : Nat) = 337 := rfl
    rw [start] at inYear leap
    refine ⟨(by decide : 1 ≤ 2), (by decide : 2 ≤ 12), positive, ?_⟩
    show day ≤ if isLeapYear (year + 1) then 29 else 28
    split
    · omega
    · rename_i common
      have shorter : (337 : Int) + day ≠ 366 := fun last => common (leap last)
      omega
  · have length : (monthLength (ofMonth year month day).year (ofMonth year month day).month : Int) =
        monthStart (month + 1) - monthStart month := month_length_from_march year (by omega)
    have named : 1 ≤ (ofMonth year month day).month ∧ (ofMonth year month day).month ≤ 12 := by
      unfold ofMonth
      split <;> constructor <;> dsimp only <;> omega
    refine ⟨named.1, named.2, ?_, ?_⟩
    · rwa [of_month_day]
    · rw [of_month_day]
      omega

end Year

theorem of_days_month (days : Int) {month day : Nat} (bound : month < 12) :
    let dayOfEra := (days + 719468) % 146097
    let dayOfYear := dayOfEra - yearStart (yearOfEra dayOfEra)
    monthFromMarch dayOfYear = month → dayOfYear = monthStart month + day - 1 →
    ofDays days = ofMonth (yearOfEra dayOfEra + (days + 719468) / 146097 * 400) month day := by
  intro dayOfEra dayOfYear named dated
  have parts : ofDays days =
      let month := monthFromMarch dayOfYear
      let calendar := if month < 10 then month + 3 else month - 9
      ⟨yearOfEra dayOfEra + (days + 719468) / 146097 * 400 + (if calendar ≤ 2 then 1 else 0), calendar.toNat,
        (dayOfYear - monthStart month + 1).toNat⟩ := rfl
  have counted : (dayOfYear - monthStart month + 1).toNat = day := by omega
  rw [parts, named]
  dsimp only
  rw [counted]
  by_cases spring : month < 10
  · have march : ¬(month : Int) + 3 ≤ 2 := by omega
    have later : ((month : Int) + 3).toNat = month + 3 := by omega
    simp [ofMonth, spring, march, later]
  · have january : (month : Int) - 9 ≤ 2 := by omega
    have later : ((month : Int) - 9).toNat = month - 9 := by omega
    simp [ofMonth, spring, january, later]

theorem of_days_parts (days : Int) : ∃ (year : Int) (month day : Nat), ofDays days = ofMonth year month day ∧
    month < 12 ∧ 1 ≤ day ∧ monthStart month + day ≤ monthStart (month + 1) ∧ monthStart month + day ≤ 366 ∧
    (monthStart month + day = 366 → isLeapYear (year + 1) = true) ∧
    days = year / 400 * 146097 + yearStart (year % 400) + (monthStart month + day - 1) - 719468 := by
  let era := (days + 719468) / 146097
  let dayOfEra := (days + 719468) % 146097
  let year := yearOfEra dayOfEra
  have inYear : InYear dayOfEra year := in_year (by omega) (by omega)
  obtain ⟨first, last⟩ := day_of_year_bounds inYear
  obtain ⟨month, day, bound, named, dated, positive, ends⟩ := month_bounds first last
  have bounds := inYear.era
  have calendar := of_days_month days bound named dated
  refine ⟨year + era * 400, month, day, calendar, bound, positive, by omega, by omega, ?_, ?_⟩
  · intro leapDay
    have again := leap_day_of_leap_year inYear (by omega) era
    exact again
  · have century : (year + era * 400) / 400 = era := by omega
    have within : (year + era * 400) % 400 = year := by omega
    rw [century, within]
    omega

theorem to_days_of_days (days : Int) : (ofDays days).toDays = days := by
  obtain ⟨year, month, day, parts, bound, _, _, _, _, same⟩ := of_days_parts days
  rw [parts, to_days_of_month bound, ← same]

theorem of_days_valid (days : Int) : (ofDays days).Valid := by
  obtain ⟨year, month, day, parts, bound, positive, inMonth, inYear, leap, _⟩ := of_days_parts days
  rw [parts]
  exact of_month_valid bound positive inMonth inYear leap

end Delivery.Date
