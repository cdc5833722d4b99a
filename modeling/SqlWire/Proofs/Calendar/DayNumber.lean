import SqlWire.Proofs.Calendar.Date
import Mathlib.Order.Monotone.Basic

/-!
# Day numbers in the order of the calendar

Day numbers count the days of the calendar one by one. A month begins as many days after the one
before it as that one has (`daysBeforeOrdinal_succ`), so of two dates the later one has the greater
number (`dayNumber_lt_iff`), and the date that is found for a number is the one that has it
(`ofDayNumber?_eq_some_iff`).
-/
namespace SqlWire.Date

/-- A year that begins in March has a leap day if the year in which it ends is a leap year. -/
theorem daysBeforeYear_succ (marchYear : Int) :
    daysBeforeYear (marchYear + 1) =
      daysBeforeYear marchYear + if isLeapYear (marchYear + 1) then 366 else 365 := by
  simp only [daysBeforeYear, isLeapYear, Bool.and_eq_true, Bool.or_eq_true, beq_iff_eq,
    bne_iff_ne]
  split <;> omega

/-- From March on, a month has as many days as its place in the year leaves room for. -/
theorem daysBeforeMonth_succ (year : Int) {month : Nat} (march : 3 ≤ month)
    (december : month ≤ 12) :
    daysBeforeMonth (month - 3 + 1) = daysBeforeMonth (month - 3) + daysInMonth year month := by
  interval_cases month <;> simp [daysBeforeMonth, daysInMonth]

/-- Months from March of year zero to a month. -/
def monthOrdinal (year : Int) (month : Nat) : Int := 12 * year + month - 3

/-- Days from the first of January 2000 to the first of a month, given by its ordinal. -/
def daysBeforeOrdinal (ordinal : Int) : Int :=
  daysBeforeYear (ordinal / 12) + daysBeforeMonth (ordinal % 12).toNat - epochDays

/-- The ordinal of a month counts its year, beginning in March, and the months since March. -/
theorem daysBeforeOrdinal_eq (marchYear : Int) {months : Nat} (inYear : months < 12) :
    daysBeforeOrdinal (12 * marchYear + months) =
      daysBeforeYear marchYear + daysBeforeMonth months - epochDays := by
  have year : (12 * marchYear + months) / 12 = marchYear := by omega
  have month : ((12 * marchYear + months) % 12).toNat = months := by omega
  rw [daysBeforeOrdinal, year, month]

/-- A day is as far from the epoch as the first of its month and the days before it in the month
together. -/
theorem civilDays_eq {year : Int} {month day : Nat} (civil : IsCivil year month day) :
    civilDays year month day = daysBeforeOrdinal (monthOrdinal year month) + day - 1 := by
  obtain ⟨january, december, first, _⟩ := civil
  by_cases early : month ≤ 2
  · have ordinal : monthOrdinal year month = 12 * (year - 1) + (month + 9 : Nat) := by
      simp only [monthOrdinal]
      omega
    rw [ordinal, daysBeforeOrdinal_eq _ (by omega)]
    simp only [civilDays, if_pos early, daysBeforeYear, Int.ofNat_eq_natCast]
    omega
  · have ordinal : monthOrdinal year month = 12 * year + (month - 3 : Nat) := by
      simp only [monthOrdinal]
      omega
    rw [ordinal, daysBeforeOrdinal_eq _ (by omega)]
    simp only [civilDays, if_neg early, daysBeforeYear, Int.ofNat_eq_natCast]
    omega

/-- Months follow one another without a gap. -/
theorem daysBeforeOrdinal_succ (year : Int) {month : Nat} (january : 1 ≤ month)
    (december : month ≤ 12) :
    daysBeforeOrdinal (monthOrdinal year month + 1) =
      daysBeforeOrdinal (monthOrdinal year month) + daysInMonth year month := by
  rcases (by omega : month = 1 ∨ month = 2 ∨ 3 ≤ month) with rfl | rfl | march
  · have this : monthOrdinal year 1 = 12 * (year - 1) + (10 : Nat) := by
      simp only [monthOrdinal]
      omega
    have next : monthOrdinal year 1 + 1 = 12 * (year - 1) + (11 : Nat) := by omega
    have long : daysInMonth year 1 = 31 := rfl
    rw [next, this, daysBeforeOrdinal_eq _ (by decide), daysBeforeOrdinal_eq _ (by decide), long]
    simp only [daysBeforeMonth]
    omega
  · -- The month after February begins the next year.
    have this : monthOrdinal year 2 = 12 * (year - 1) + (11 : Nat) := by
      simp only [monthOrdinal]
      omega
    have next : monthOrdinal year 2 + 1 = 12 * (year - 1 + 1) + (0 : Nat) := by omega
    rw [next, this, daysBeforeOrdinal_eq _ (by decide), daysBeforeOrdinal_eq _ (by decide),
      daysBeforeYear_succ, Int.sub_add_cancel, daysInMonth, if_pos rfl]
    simp only [daysBeforeMonth]
    split <;> omega
  · have this : monthOrdinal year month = 12 * year + (month - 3 : Nat) := by
      simp only [monthOrdinal]
      omega
    have next : monthOrdinal year month + 1 = 12 * year + (month - 3 + 1 : Nat) := by omega
    rw [next, this, daysBeforeOrdinal_eq _ (by omega), daysBeforeOrdinal_eq _ (by omega),
      daysBeforeMonth_succ year march december]
    omega

/-- A later month begins on a later day. -/
theorem daysBeforeOrdinal_le_of_le {earlier later : Int} (ordered : earlier ≤ later) :
    daysBeforeOrdinal earlier ≤ daysBeforeOrdinal later := by
  apply monotone_int_of_le_succ _ ordered
  intro ordinal
  have month : ordinal = monthOrdinal ((ordinal + 2) / 12) (((ordinal + 2) % 12).toNat + 1) := by
    simp only [monthOrdinal]
    omega
  rw [month, daysBeforeOrdinal_succ _ (by omega) (by omega)]
  omega

/-- A date comes before another in an earlier year, in an earlier month of the same year, or on an
earlier day of the same month. -/
instance : LT Date where
  lt earlier later := earlier.year < later.year ∨ earlier.year = later.year ∧
    (earlier.month < later.month ∨ earlier.month = later.month ∧ earlier.day < later.day)

/-- A day that lies in an earlier month has a smaller number. -/
theorem dayNumber_lt_of_monthOrdinal_lt {earlier later : Date}
    (before : monthOrdinal earlier.year earlier.month < monthOrdinal later.year later.month) :
    earlier.dayNumber < later.dayNumber := by
  obtain ⟨january, december, _, inMonth⟩ := earlier.civil
  obtain ⟨_, _, first, _⟩ := later.civil
  have gap := daysBeforeOrdinal_le_of_le (Int.add_one_le_of_lt before)
  rw [daysBeforeOrdinal_succ _ january december] at gap
  rw [dayNumber, dayNumber, civilDays_eq earlier.civil, civilDays_eq later.civil]
  omega

/-- A date that comes before another has a smaller number. -/
theorem dayNumber_lt_of_lt {earlier later : Date} (before : earlier < later) :
    earlier.dayNumber < later.dayNumber := by
  have december := earlier.civil.2.1
  have january := later.civil.1
  rcases before with year | ⟨year, month | ⟨month, day⟩⟩
  · apply dayNumber_lt_of_monthOrdinal_lt
    simp only [monthOrdinal]
    omega
  · apply dayNumber_lt_of_monthOrdinal_lt
    simp only [monthOrdinal]
    omega
  · rw [dayNumber, dayNumber, civilDays_eq earlier.civil, civilDays_eq later.civil, year, month]
    omega

/-- Of two dates one comes before the other, or they are the same. -/
theorem lt_or_eq_or_lt (one other : Date) : one < other ∨ one = other ∨ other < one := by
  obtain ⟨year, month, day, _, _, _⟩ := one
  obtain ⟨year', month', day', _, _, _⟩ := other
  simp only [mk.injEq]
  change (year < year' ∨ year = year' ∧ (month < month' ∨ month = month' ∧ day < day')) ∨ _ ∨
    (year' < year ∨ year' = year ∧ (month' < month ∨ month' = month ∧ day' < day))
  omega

/-- A date comes before another exactly if its number is smaller. -/
theorem dayNumber_lt_iff {earlier later : Date} :
    earlier.dayNumber < later.dayNumber ↔ earlier < later := by
  constructor
  · intro smaller
    rcases lt_or_eq_or_lt earlier later with before | rfl | after
    · exact before
    · omega
    · have greater := dayNumber_lt_of_lt after
      omega
  · exact dayNumber_lt_of_lt

/-- Dates with the same number are the same. -/
theorem eq_of_dayNumber_eq {one other : Date} (same : one.dayNumber = other.dayNumber) :
    one = other := by
  rcases lt_or_eq_or_lt one other with before | equal | after
  · have smaller := dayNumber_lt_of_lt before
    omega
  · exact equal
  · have greater := dayNumber_lt_of_lt after
    omega

/-- No date comes before the first supported day. -/
theorem not_lt_first (date : Date) : ¬ date < first := by
  have lower := date.minYear_le
  obtain ⟨january, _, day, _⟩ := date.civil
  change ¬ (date.year < minYear ∨ date.year = minYear ∧
    (date.month < 1 ∨ date.month = 1 ∧ date.day < 1))
  omega

/-- No date comes after the last supported day. -/
theorem not_last_lt (date : Date) : ¬ last < date := by
  have upper := date.le_maxYear
  obtain ⟨_, december, _, inMonth⟩ := date.civil
  have long : daysInMonth date.year 12 = 31 := rfl
  change ¬ (maxYear < date.year ∨ maxYear = date.year ∧
    (12 < date.month ∨ 12 = date.month ∧ 31 < date.day))
  rintro (year | ⟨_, month | ⟨month, day⟩⟩)
  · omega
  · omega
  · rw [← month, long] at inMonth
    omega

/-- The number of a date lies between those of the first and the last supported day. -/
theorem dayNumber_range (date : Date) :
    first.dayNumber ≤ date.dayNumber ∧ date.dayNumber ≤ last.dayNumber := by
  have lower := mt dayNumber_lt_iff.mp date.not_lt_first
  have upper := mt dayNumber_lt_iff.mp date.not_last_lt
  omega

/-- The year, month and day of a position are as many days from the epoch as its years and the days
of the last of them. -/
theorem Position.Within.civilDays_civil {position : Position} (within : position.Within) :
    civilDays position.civil.1 position.civil.2.1 position.civil.2.2 =
      daysBeforeYear position.marchYear + position.dayOfYear - epochDays := by
  have bound := within.dayOfYear_le
  obtain ⟨begun, _⟩ := daysBeforeMonth_monthFromMarch position.dayOfYear
  have months : monthFromMarch position.dayOfYear ≤ 11 := by
    simp only [monthFromMarch]
    omega
  simp only [civil]
  generalize monthFromMarch position.dayOfYear = month at begun months
  by_cases march : month < 10
  · have late : ¬ month + 3 ≤ 2 := by omega
    simp only [if_pos march, civilDays, if_neg late, Nat.add_sub_cancel, daysBeforeYear,
      Int.ofNat_eq_natCast]
    omega
  · have early : month - 9 ≤ 2 := by omega
    have whole : month - 9 + 9 = month := by omega
    simp only [if_neg march, civilDays, if_pos early, whole, Int.add_sub_cancel, daysBeforeYear,
      Int.ofNat_eq_natCast]
    omega

/-- A date that is made of a year, a month and a day has them. -/
theorem of_ofCivil?_eq_some {year : Int} {month day : Nat} {date : Date}
    (found : ofCivil? year month day = some date) :
    date.year = year ∧ date.month = month ∧ date.day = day := by
  unfold ofCivil? at found
  split at found
  · split at found
    · split at found
      · cases found
        exact ⟨rfl, rfl, rfl⟩
      · cases found
    · cases found
  · cases found

/-- The date that is found for a number is the one that has it. -/
theorem ofDayNumber?_eq_some_iff {dayNumber : Int} {date : Date} :
    ofDayNumber? dayNumber = some date ↔ date.dayNumber = dayNumber := by
  have counted : ∀ {found : Date}, ofDayNumber? dayNumber = some found →
      found.dayNumber = dayNumber := by
    intro found read
    let position := Position.ofDayNumber dayNumber
    have within : position.Within := Position.within_ofDayNumber dayNumber
    have days : dayNumber + epochDays = daysBeforeYear position.marchYear + position.dayOfYear :=
      Position.daysBeforeYear_ofDayNumber dayNumber
    have dated : ofCivil? position.civil.1 position.civil.2.1 position.civil.2.2 = some found :=
      read
    obtain ⟨year, month, day⟩ := of_ofCivil?_eq_some dated
    rw [Date.dayNumber, year, month, day, within.civilDays_civil]
    omega
  constructor
  · exact counted
  · rintro rfl
    cases read : ofDayNumber? date.dayNumber with
    | none =>
      have range := date.dayNumber_range
      have outside := ofDayNumber?_eq_none_iff.mp read
      omega
    | some found => rw [eq_of_dayNumber_eq (counted read)]

end SqlWire.Date
