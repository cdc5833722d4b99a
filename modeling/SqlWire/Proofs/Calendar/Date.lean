import SqlWire.Calendar.Date
import Mathlib.Tactic.IntervalCases

/-!
# Dates of day numbers

A day number is taken apart into cycles of years, and the year, month and day that are read off are
always those of a day that exists (`Position.Within.isCivil`). So a day number has a date exactly
when its year is supported, which are the day numbers from that of the first supported day to that
of the last (`ofDayNumber?_eq_none_iff`).
-/
namespace SqlWire.Date

/-- The first supported day. -/
def first : Date := ⟨minYear, 1, 1, by decide, by decide, by decide⟩

/-- The last supported day. -/
def last : Date := ⟨maxYear, 12, 31, by decide, by decide, by decide⟩

/-- Days from the first of March of year zero to that of another year. -/
def daysBeforeYear (marchYear : Int) : Int :=
  365 * marchYear + marchYear / 4 - marchYear / 100 + marchYear / 400

/-- A position that lies within its cycles. A year has a last day of its own only at the end of a
group of four years, and at the end of a century only if the cycle ends there too. -/
structure Position.Within (position : Position) : Prop where
  /-- A cycle has four centuries. -/
  century_le : position.century ≤ 3
  /-- A century has twenty-five groups of years. -/
  group_le : position.group ≤ 24
  /-- A group has four years. -/
  yearOfGroup_le : position.yearOfGroup ≤ 3
  /-- A year has at most 366 days. -/
  dayOfYear_le : position.dayOfYear ≤ 365
  /-- Only some years have as many. -/
  leap : position.dayOfYear = 365 →
    position.yearOfGroup = 3 ∧ (position.group = 24 → position.century = 3)

namespace Position

/-- The position of a day number lies within its cycles. -/
theorem within_ofDayNumber (dayNumber : Int) : (ofDayNumber dayNumber).Within := by
  constructor <;> simp only [ofDayNumber] <;> omega

/-- The days of a day number are those of its cycles, centuries, groups and years, and those of the
last year. -/
theorem days_ofDayNumber (dayNumber : Int) :
    let position := ofDayNumber dayNumber
    dayNumber + epochDays = 146097 * position.cycle + 36524 * position.century +
      1461 * position.group + 365 * position.yearOfGroup + position.dayOfYear := by
  simp only [ofDayNumber]
  omega

/-- A day of a year lies in its month. -/
theorem daysBeforeMonth_monthFromMarch (dayOfYear : Nat) :
    daysBeforeMonth (monthFromMarch dayOfYear) ≤ dayOfYear ∧
      dayOfYear < daysBeforeMonth (monthFromMarch dayOfYear + 1) := by
  simp only [daysBeforeMonth, monthFromMarch]
  omega

namespace Within

variable {position : Position} (within : position.Within)
include within

/-- The days of the years in front of a position are those of its cycles. -/
theorem daysBeforeYear_marchYear :
    daysBeforeYear position.marchYear = 146097 * position.cycle + 36524 * position.century +
      1461 * position.group + 365 * position.yearOfGroup := by
  have century := within.century_le
  have group := within.group_le
  have year := within.yearOfGroup_le
  simp only [daysBeforeYear, marchYear]
  omega

/-- A year that begins in March and has 366 days ends in a leap year. -/
theorem isLeapYear (long : position.dayOfYear = 365) :
    isLeapYear (position.marchYear + 1) = true := by
  have century := within.century_le
  have group := within.group_le
  obtain ⟨year, ending⟩ := within.leap long
  simp only [SqlWire.isLeapYear, marchYear, Bool.and_eq_true, Bool.or_eq_true, beq_iff_eq,
    bne_iff_ne]
  omega

/-- The year, month and day of a position are those of a day that exists. -/
theorem isCivil :
    IsCivil position.civil.1 position.civil.2.1 position.civil.2.2 := by
  obtain ⟨begun, ending⟩ := daysBeforeMonth_monthFromMarch position.dayOfYear
  have bound := within.dayOfYear_le
  have months : monthFromMarch position.dayOfYear ≤ 11 := by
    simp only [monthFromMarch]
    omega
  simp only [civil]
  generalize monthFromMarch position.dayOfYear = month at begun ending months
  -- Only the last month, February, takes its length from the year.
  by_cases february : month = 11
  · subst february
    change 337 ≤ position.dayOfYear at begun
    change IsCivil (position.marchYear + 1) 2 (position.dayOfYear - 337 + 1)
    by_cases long : position.dayOfYear = 365
    · simp [IsCivil, daysInMonth, within.isLeapYear long, long]
    · have short : 28 ≤ daysInMonth (position.marchYear + 1) 2 := by
        rw [daysInMonth, if_pos rfl]
        split <;> decide
      simp only [IsCivil]
      omega
  · simp only [daysBeforeMonth] at begun ending ⊢
    interval_cases month <;> simp [IsCivil, daysInMonth] <;> omega

end Within

/-- The days of a day number are those in front of the last year and those of the last year. -/
theorem daysBeforeYear_ofDayNumber (dayNumber : Int) :
    dayNumber + epochDays =
      daysBeforeYear (ofDayNumber dayNumber).marchYear + (ofDayNumber dayNumber).dayOfYear := by
  rw [(within_ofDayNumber dayNumber).daysBeforeYear_marchYear]
  exact days_ofDayNumber dayNumber

/-- January and February count as the end of the year that began in March. -/
theorem civil_fst (position : Position) :
    position.civil.1 = position.marchYear + if position.dayOfYear < 306 then 0 else 1 := by
  have before : position.dayOfYear < 306 ↔ monthFromMarch position.dayOfYear < 10 := by
    simp only [monthFromMarch]
    omega
  simp only [civil, before]
  split <;> simp

end Position

/-- A day that exists is refused exactly if its year is not supported. -/
theorem ofCivil?_eq_none_iff {year : Int} {month day : Nat} (civil : IsCivil year month day) :
    ofCivil? year month day = none ↔ year < minYear ∨ maxYear < year := by
  rw [ofCivil?, dif_pos civil]
  split
  · rename_i lower
    split
    · rename_i upper
      simp [Int.not_lt.mpr lower, Int.not_lt.mpr upper]
    · rename_i upper
      simp [Int.not_le.mp upper]
  · rename_i lower
    simp [Int.not_le.mp lower]

/-- The number of the first supported day. -/
theorem dayNumber_first : first.dayNumber = -96476249 := by decide

/-- The number of the last supported day. -/
theorem dayNumber_last : last.dayNumber = 95015279 := by decide

/-- A day number has a date exactly if it is neither before the first supported day nor after the
last. -/
theorem ofDayNumber?_eq_none_iff {dayNumber : Int} :
    ofDayNumber? dayNumber = none ↔
      dayNumber < first.dayNumber ∨ last.dayNumber < dayNumber := by
  let position := Position.ofDayNumber dayNumber
  have within : position.Within := Position.within_ofDayNumber dayNumber
  have days : dayNumber + epochDays = daysBeforeYear position.marchYear + position.dayOfYear :=
    Position.daysBeforeYear_ofDayNumber dayNumber
  have year := position.civil_fst
  have bound := within.dayOfYear_le
  have lower : minYear ≤ position.civil.1 ↔ first.dayNumber ≤ dayNumber := by
    rw [year, dayNumber_first]
    simp only [daysBeforeYear, epochDays, minYear] at *
    split <;> omega
  have upper : position.civil.1 ≤ maxYear ↔ dayNumber ≤ last.dayNumber := by
    rw [year, dayNumber_last]
    simp only [daysBeforeYear, epochDays, maxYear] at *
    split <;> omega
  change ofCivil? position.civil.1 position.civil.2.1 position.civil.2.2 = none ↔ _
  rw [ofCivil?_eq_none_iff within.isCivil, ← Int.not_le, lower, ← Int.not_le, upper, Int.not_le,
    Int.not_le]

end SqlWire.Date
