import SqlWire.Number.Decimal

/-!
# Dates of the proleptic Gregorian calendar

A date is a year, a month and a day of that month, within the years that timestamps reach. Days are
counted from the first of January 2000. Counting treats the year as beginning in March, so that the
leap day is the last day of its year, and finding the date of a day number takes apart the cycles of
four hundred, one hundred, four and one years in turn.
-/
namespace SqlWire

/-- Years with a leap day: every fourth, but of the full centuries only every fourth. -/
def isLeapYear (year : Int) : Bool :=
  year % 4 == 0 && (year % 100 != 0 || year % 400 == 0)

/-- Days of a month. -/
def daysInMonth (year : Int) (month : Nat) : Nat :=
  if month = 2 then if isLeapYear year then 29 else 28
  else if month = 4 ∨ month = 6 ∨ month = 9 ∨ month = 11 then 30
  else 31

/-- The day exists in the calendar. -/
def IsCivil (year : Int) (month day : Nat) : Prop :=
  1 ≤ month ∧ month ≤ 12 ∧ 1 ≤ day ∧ day ≤ daysInMonth year month

instance (year : Int) (month day : Nat) : Decidable (IsCivil year month day) := by
  unfold IsCivil; infer_instance

/-- First year of the supported range. -/
def Date.minYear : Int := -262143

/-- Last year of the supported range. -/
def Date.maxYear : Int := 262142

/-- A calendar date in the supported years. -/
structure Date where
  /-- Year, with a year zero before year one. -/
  year : Int
  /-- Month, January being 1. -/
  month : Nat
  /-- Day of the month, from 1. -/
  day : Nat
  /-- The day exists in the calendar. -/
  civil : IsCivil year month day
  /-- The year is not before the supported range. -/
  minYear_le : Date.minYear ≤ year
  /-- The year is not after the supported range. -/
  le_maxYear : year ≤ Date.maxYear
  deriving DecidableEq

namespace Date

/-- The date of a year, month and day, if there is one in the supported years. -/
def ofCivil? (year : Int) (month day : Nat) : Option Date :=
  if civil : IsCivil year month day then
    if lower : minYear ≤ year then
      if upper : year ≤ maxYear then some ⟨year, month, day, civil, lower, upper⟩ else none
    else none
  else none

/-- Days from the first of March of year zero to the first of January 2000. -/
def epochDays : Int := 730425

/-- Days of a year beginning in March that lie before its month. -/
def daysBeforeMonth (monthFromMarch : Nat) : Nat := (153 * monthFromMarch + 2) / 5

/-- Days from the first of January 2000 to a year, month and day. -/
def civilDays (year : Int) (month day : Nat) : Int :=
  let marchYear := if month ≤ 2 then year - 1 else year
  let monthFromMarch := if month ≤ 2 then month + 9 else month - 3
  365 * marchYear + marchYear / 4 - marchYear / 100 + marchYear / 400 +
    Int.ofNat (daysBeforeMonth monthFromMarch + day - 1) - epochDays

/-- Days from the first of January 2000 to the date. -/
def dayNumber (date : Date) : Int := civilDays date.year date.month date.day

/-- A position in the cycle of four hundred years that begins in March. -/
structure Position where
  /-- Full cycles of four hundred years. -/
  cycle : Int
  /-- Centuries of the cycle, 0 to 3. -/
  century : Nat
  /-- Groups of four years of the century, 0 to 24. -/
  group : Nat
  /-- Years of the group, 0 to 3. -/
  yearOfGroup : Nat
  /-- Days of the year, 0 to 365. -/
  dayOfYear : Nat

/-- The position of a day number. The last century, group and year of their cycles are one day
longer, so their ordinals are cut off at 3. -/
def Position.ofDayNumber (dayNumber : Int) : Position :=
  let days := dayNumber + epochDays
  let dayOfCycle := (days % 146097).toNat
  let century := min (dayOfCycle / 36524) 3
  let dayOfCentury := dayOfCycle - 36524 * century
  let group := dayOfCentury / 1461
  let dayOfGroup := dayOfCentury - 1461 * group
  let yearOfGroup := min (dayOfGroup / 365) 3
  ⟨days / 146097, century, group, yearOfGroup, dayOfGroup - 365 * yearOfGroup⟩

/-- The year, beginning in March, of a position. -/
def Position.marchYear (position : Position) : Int :=
  400 * position.cycle + 100 * position.century + 4 * position.group + position.yearOfGroup

/-- Months since March of a day of the year. -/
def monthFromMarch (dayOfYear : Nat) : Nat := (5 * dayOfYear + 2) / 153

/-- The year, month and day of a position. -/
def Position.civil (position : Position) : Int × Nat × Nat :=
  let months := monthFromMarch position.dayOfYear
  let day := position.dayOfYear - daysBeforeMonth months + 1
  if months < 10 then (position.marchYear, months + 3, day)
  else (position.marchYear + 1, months - 9, day)

/-- The date of a day number, if it lies in the supported years. -/
def ofDayNumber? (dayNumber : Int) : Option Date :=
  let (year, month, day) := (Position.ofDayNumber dayNumber).civil
  ofCivil? year month day

/-- Four digits of a year; with a sign when it is negative or has more digits. -/
def yearText (year : Int) : List Char :=
  let digits := Number.padded 4 year.natAbs
  if year < 0 then '-' :: digits
  else if 9999 < year then '+' :: digits
  else digits

/-- Year, month and day with dashes between them. -/
def text (date : Date) : List Char :=
  yearText date.year ++ ['-'] ++ Number.padded 2 date.month ++ ['-'] ++ Number.padded 2 date.day

end Date
end SqlWire
