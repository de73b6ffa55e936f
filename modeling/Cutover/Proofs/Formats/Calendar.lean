import Cutover.Time.Civil

set_option autoImplicit false

namespace Cutover

/-- A day of an era of 400 years, by its century, its cycle of four years, the year of the cycle
and the day of that year. The last year of a cycle ends with a leap day, but not where it is the
last year of one of the first three centuries. -/
structure EraDay where
  century : Int
  cycle : Int
  yearOfCycle : Int
  dayOfYear : Int
  century_range : 0 ≤ century ∧ century ≤ 3
  cycle_range : 0 ≤ cycle ∧ cycle ≤ 24
  year_range : 0 ≤ yearOfCycle ∧ yearOfCycle ≤ 3
  day_range : 0 ≤ dayOfYear ∧ dayOfYear ≤ 365
  leapDay : dayOfYear = 365 → yearOfCycle = 3 ∧ (cycle < 24 ∨ century = 3)

namespace EraDay

def number (d : EraDay) : Int :=
  36524 * d.century + 1461 * d.cycle + 365 * d.yearOfCycle + d.dayOfYear

def year (d : EraDay) : Int := 100 * d.century + 4 * d.cycle + d.yearOfCycle

theorem exists_number {number : Int} (first : 0 ≤ number) (last : number < 146097) :
    ∃ d : EraDay, d.number = number := by
  by_cases final : number = 146096
  · let d : EraDay := ⟨3, 24, 3, 365, by omega, by omega, by omega, by omega, by omega⟩
    exact ⟨d, final.symm⟩
  · by_cases leapDay : number % 36524 % 1461 = 1460
    · let d : EraDay :=
        ⟨number / 36524, number % 36524 / 1461, 3, 365, by omega, by omega, by omega, by omega,
          by omega⟩
      have same : d.number = number := by
        change 36524 * (number / 36524) + 1461 * (number % 36524 / 1461) + 365 * 3 + 365 = number
        omega
      exact ⟨d, same⟩
    · let d : EraDay :=
        ⟨number / 36524, number % 36524 / 1461, number % 36524 % 1461 / 365,
          number % 36524 % 1461 % 365, by omega, by omega, by omega, by omega, by omega⟩
      have same : d.number = number := by
        change 36524 * (number / 36524) + 1461 * (number % 36524 / 1461) +
          365 * (number % 36524 % 1461 / 365) + number % 36524 % 1461 % 365 = number
        omega
      exact ⟨d, same⟩

variable (d : EraDay)

/-- The year is found from the number: each leap day before it is taken out of the count. -/
theorem yearOfEra_number :
    (d.number - d.number / 1460 + d.number / 36524 - d.number / 146096) / 365 = d.year := by
  obtain ⟨century, cycle, year, day, centuries, cycles, years, days, leapDay⟩ := d
  unfold number EraDay.year
  dsimp only
  by_cases final : century = 3 ∧ cycle = 24 ∧ day = 365
  · obtain ⟨rfl, rfl, rfl⟩ := final
    omega
  · have inCentury : (36524 * century + 1461 * cycle + 365 * year + day) / 36524 = century := by
      omega
    have inside : (36524 * century + 1461 * cycle + 365 * year + day) / 146096 = 0 := by omega
    rw [inCentury, inside]
    omega

theorem daysBefore_year : 365 * d.year + d.year / 4 - d.year / 100 = d.number - d.dayOfYear := by
  obtain ⟨century, cycle, year, day, centuries, cycles, years, days, leapDay⟩ := d
  unfold number EraDay.year
  dsimp only
  omega

theorem isLeap_next (era : Int) (last : d.dayOfYear = 365) :
    Date.isLeap (d.year + era * 400 + 1) = true := by
  obtain ⟨century, cycle, year, day, centuries, cycles, years, days, leapDay⟩ := d
  obtain ⟨rfl, early⟩ := leapDay last
  unfold EraDay.year Date.isLeap
  dsimp only
  have fourth : (100 * century + 4 * cycle + 3 + era * 400 + 1) % 4 = 0 := by omega
  by_cases turn : century = 3 ∧ cycle = 24
  · have fourHundredth : (100 * century + 4 * cycle + 3 + era * 400 + 1) % 400 = 0 := by omega
    simp [fourth, fourHundredth]
  · have noCentury : (100 * century + 4 * cycle + 3 + era * 400 + 1) % 100 ≠ 0 := by omega
    simp [fourth, noCentury]

theorem year_bounds : 0 ≤ d.year ∧ d.year < 400 := by
  obtain ⟨century, cycle, year, day, centuries, cycles, years, days, leapDay⟩ := d
  unfold EraDay.year
  dsimp only
  omega

end EraDay

namespace Date

/-- The date of a day of a year that is counted from March. -/
def fromMarch (year ofYear : Int) : Date :=
  let month := (5 * ofYear + 2) / 153
  let day := ofYear - (153 * month + 2) / 5 + 1
  let calendarMonth := if month < 10 then month + 3 else month - 9
  ⟨if calendarMonth ≤ 2 then year + 1 else year, calendarMonth.toNat, day.toNat⟩

theorem ofDays_eq_fromMarch (days : Int) :
    ∃ (d : EraDay) (era : Int), days = era * 146097 + d.number - 719468 ∧
      ofDays days = fromMarch (d.year + era * 400) d.dayOfYear := by
  have first : 0 ≤ (days + 719468) % 146097 := by omega
  have last : (days + 719468) % 146097 < 146097 := by omega
  obtain ⟨d, number⟩ := EraDay.exists_number first last
  have split : days = (days + 719468) / 146097 * 146097 + d.number - 719468 := by omega
  have ofEra : days + 719468 - (days + 719468) / 146097 * 146097 = d.number := by omega
  have ofYear : d.number - (365 * d.year + d.year / 4 - d.year / 100) = d.dayOfYear := by
    have before := d.daysBefore_year
    omega
  have same : ofDays days = fromMarch (d.year + (days + 719468) / 146097 * 400) d.dayOfYear := by
    unfold ofDays
    simp only [ofEra, d.yearOfEra_number, ofYear]
    unfold fromMarch
    rfl
  exact ⟨d, (days + 719468) / 146097, split, same⟩

theorem fromMarch_early {year ofYear : Int} (early : (5 * ofYear + 2) / 153 < 10)
    (range : 0 ≤ ofYear) :
    fromMarch year ofYear = ⟨year, ((5 * ofYear + 2) / 153 + 3).toNat,
      (ofYear - (153 * ((5 * ofYear + 2) / 153) + 2) / 5 + 1).toNat⟩ := by
  have late : ¬((5 * ofYear + 2) / 153 + 3 ≤ 2) := by omega
  simp only [fromMarch, if_pos early, if_neg late]

theorem fromMarch_late {year ofYear : Int} (late : ¬(5 * ofYear + 2) / 153 < 10)
    (range : ofYear ≤ 365) :
    fromMarch year ofYear = ⟨year + 1, ((5 * ofYear + 2) / 153 - 9).toNat,
      (ofYear - (153 * ((5 * ofYear + 2) / 153) + 2) / 5 + 1).toNat⟩ := by
  have first : (5 * ofYear + 2) / 153 - 9 ≤ 2 := by omega
  simp only [fromMarch, if_neg late, if_pos first]

theorem toDays_fromMarch {year ofYear : Int} (range : 0 ≤ ofYear ∧ ofYear ≤ 365) :
    (fromMarch year ofYear).toDays =
      year / 400 * 146097 + ((year - year / 400 * 400) * 365 + (year - year / 400 * 400) / 4 -
        (year - year / 400 * 400) / 100 + ofYear) - 719468 := by
  by_cases early : (5 * ofYear + 2) / 153 < 10
  · have months : ¬((5 * ofYear + 2) / 153 + 3).toNat ≤ 2 := by omega
    rw [fromMarch_early early range.1]
    simp only [toDays, if_neg months]
    omega
  · have months : ((5 * ofYear + 2) / 153 - 9).toNat ≤ 2 := by omega
    rw [fromMarch_late early range.2]
    simp only [toDays, if_pos months, Int.add_sub_cancel]
    omega

theorem toDays_ofDays (days : Int) : (ofDays days).toDays = days := by
  obtain ⟨d, era, split, date⟩ := ofDays_eq_fromMarch days
  have inEra := d.year_bounds
  have before := d.daysBefore_year
  have eras : (d.year + era * 400) / 400 = era := by omega
  have years : d.year + era * 400 - era * 400 = d.year := by omega
  rw [date, toDays_fromMarch d.day_range, eras, years]
  omega

theorem isValid_fromMarch {year ofYear : Int} (range : 0 ≤ ofYear ∧ ofYear ≤ 365)
    (leap : ofYear = 365 → isLeap (year + 1) = true) : (fromMarch year ofYear).isValid = true := by
  by_cases early : (5 * ofYear + 2) / 153 < 10
  · rw [fromMarch_early early range.1]
    have noFebruary : ((5 * ofYear + 2) / 153 + 3).toNat ≠ 2 := by omega
    simp only [isValid, daysInMonth, if_neg noFebruary, Bool.and_eq_true, decide_eq_true_eq]
    split <;> omega
  · rw [fromMarch_late early range.2]
    simp only [isValid, daysInMonth, Bool.and_eq_true, decide_eq_true_eq]
    by_cases last : ofYear = 365
    · have february : ((5 * ofYear + 2) / 153 - 9).toNat = 2 := by omega
      rw [if_pos february, if_pos (leap last)]
      omega
    · split
      · split <;> omega
      · split <;> omega

theorem isValid_ofDays (days : Int) : (ofDays days).isValid = true := by
  obtain ⟨d, era, -, date⟩ := ofDays_eq_fromMarch days
  rw [date]
  exact isValid_fromMarch d.day_range (d.isLeap_next era)

theorem bounds_of_isValid {d : Date} (valid : d.isValid = true) : d.month ≤ 12 ∧ d.day ≤ 31 := by
  simp only [isValid, Bool.and_eq_true, decide_eq_true_eq] at valid
  have longest : daysInMonth d.year d.month ≤ 31 := by
    unfold daysInMonth
    split
    · split <;> omega
    · split <;> omega
  omega

end Date

end Cutover
