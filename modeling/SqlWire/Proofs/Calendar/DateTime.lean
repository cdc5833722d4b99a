import SqlWire.Calendar.DateTime
import SqlWire.Proofs.Calendar.DayNumber

/-!
# Timestamps of numbers of microseconds

Only the remainder by one day counts for the time of day, so every number of microseconds has one
(`TimeOfDay.exists_ofMicros?`). The day decides whether there is a timestamp: there is one exactly
for the numbers from the beginning of the first supported day to the end of the last
(`DateTime.ofMicros?_eq_none_iff`), and it is the one that lies as many microseconds after the
beginning of the year 2000 (`DateTime.ofMicros?_eq_some_iff`). The number of a timestamp always fits
64 bits (`DateTime.toInt_toMicros`) and leads back to it but for less than a microsecond
(`DateTime.exists_ofMicros?_toMicros`).
-/
namespace SqlWire

/-- Every number of microseconds has a time of day. -/
theorem TimeOfDay.exists_ofMicros? (micros : Int) : ∃ time, ofMicros? micros = some time := by
  let ofDay := (micros % microsPerDay).toNat
  have inDay : ofDay < 86400000000 := by
    simp only [ofDay, microsPerDay]
    omega
  have second : ofDay / 1000000 < secondsPerDay := by
    simp only [secondsPerDay]
    omega
  have fraction : ofDay % 1000000 * 1000 < room (ofDay / 1000000) := by
    simp only [room, nanosPerSecond]
    split <;> omega
  exact ⟨_, dif_pos ⟨second, fraction⟩⟩

/-- A time of day lies before a second after the next midnight, also in a leap second. -/
theorem TimeOfDay.nanos_lt (time : TimeOfDay) : time.nanos < nanosPerDay + nanosPerSecond := by
  have second := time.second_lt
  have fraction := time.fraction_lt
  simp only [room, nanos, nanosPerDay, secondsPerDay, nanosPerSecond] at second fraction ⊢
  split at fraction <;> omega

/-- The time of day of a number of microseconds is the one, outside a leap second, that lies as far
after midnight as the number is behind the last whole day. -/
theorem TimeOfDay.ofMicros?_eq_some_iff {micros : Int} {time : TimeOfDay} :
    ofMicros? micros = some time ↔
      time.fraction < nanosPerSecond ∧ (time.nanos : Int) = micros % microsPerDay * 1000 := by
  let ofDay := (micros % microsPerDay).toNat
  have whole : (ofDay : Int) = micros % microsPerDay := by
    simp only [ofDay, microsPerDay]
    omega
  have plain : ofDay % 1000000 * 1000 < nanosPerSecond := by
    simp only [nanosPerSecond]
    omega
  change ofSecond? (ofDay / 1000000) (ofDay % 1000000 * 1000) = some time ↔ _
  rw [← whole]
  constructor
  · intro found
    unfold ofSecond? at found
    split at found
    · cases found
      refine ⟨plain, ?_⟩
      simp only [nanos, nanosPerSecond]
      omega
    · cases found
  · rintro ⟨early, same⟩
    simp only [nanos, nanosPerSecond] at same early
    have second : ofDay / 1000000 = time.second := by omega
    have fraction : ofDay % 1000000 * 1000 = time.fraction := by omega
    rw [second, fraction]
    exact dif_pos ⟨time.second_lt, time.fraction_lt⟩

namespace DateTime

/-- The first timestamp. -/
def first : DateTime := ⟨Date.first, ⟨0, 0, by decide, by decide⟩⟩

/-- The last timestamp outside a leap second. -/
def last : DateTime := ⟨Date.last, ⟨86399, 999999999, by decide, by decide⟩⟩

/-- A timestamp is not after another if its date is before, or its second of the same day, or if the
seconds are the same and no more of that of the first has passed. -/
instance : LE DateTime where
  le earlier later := earlier.date < later.date ∨ earlier.date = later.date ∧
    (earlier.time.second < later.time.second ∨
      earlier.time.second = later.time.second ∧ earlier.time.fraction ≤ later.time.fraction)

/-- Whether a number of microseconds since the beginning of the year 2000 leads to a supported
day. -/
def Supported (micros : Int) : Prop :=
  Date.first.dayNumber * microsPerDay ≤ micros ∧
    micros < (Date.last.dayNumber + 1) * microsPerDay

/-- The numbers of microseconds that lead to supported days. -/
theorem supported_iff {micros : Int} :
    Supported micros ↔ -8335547913600000000 ≤ micros ∧ micros ≤ 8209320191999999999 := by
  rw [Supported, Date.dayNumber_first, Date.dayNumber_last, microsPerDay]
  omega

/-- A number of microseconds has no timestamp exactly if it leads to no supported day. -/
theorem ofMicros?_eq_none_iff {micros : Int64} :
    ofMicros? micros = none ↔ ¬ Supported micros.toInt := by
  obtain ⟨time, timed⟩ := TimeOfDay.exists_ofMicros? micros.toInt
  have dated : ofMicros? micros = none ↔
      Date.ofDayNumber? (micros.toInt / microsPerDay) = none := by
    simp only [ofMicros?, timed]
    cases Date.ofDayNumber? (micros.toInt / microsPerDay) <;> simp
  rw [dated, Date.ofDayNumber?_eq_none_iff, Supported, Date.dayNumber_first, Date.dayNumber_last,
    microsPerDay]
  omega

/-- The nanoseconds of a timestamp are those of its days and those of its time of day. -/
theorem nanos_eq (stamp : DateTime) :
    stamp.nanos = stamp.date.dayNumber * 86400000000000 + stamp.time.nanos := rfl

/-- The timestamp of a number of microseconds is the one, outside a leap second, that lies as many
after the beginning of the year 2000. -/
theorem ofMicros?_eq_some_iff {micros : Int64} {stamp : DateTime} :
    ofMicros? micros = some stamp ↔
      stamp.time.fraction < nanosPerSecond ∧ stamp.nanos = micros.toInt * 1000 := by
  have parts : ofMicros? micros = some stamp ↔
      Date.ofDayNumber? (micros.toInt / microsPerDay) = some stamp.date ∧
        TimeOfDay.ofMicros? micros.toInt = some stamp.time := by
    obtain ⟨date, time⟩ := stamp
    simp only [ofMicros?]
    cases Date.ofDayNumber? (micros.toInt / microsPerDay) <;>
      cases TimeOfDay.ofMicros? micros.toInt <;> simp
  rw [parts, Date.ofDayNumber?_eq_some_iff, TimeOfDay.ofMicros?_eq_some_iff]
  have day : microsPerDay = 86400000000 := rfl
  rw [nanos_eq, day]
  constructor
  · rintro ⟨days, plain, time⟩
    exact ⟨plain, by omega⟩
  · rintro ⟨plain, distance⟩
    have inDay : stamp.time.nanos < 86400000000000 := stamp.time.nanos_lt_of_fraction_lt plain
    exact ⟨by omega, plain, by omega⟩

/-- A timestamp that is not after another has not the greater number of nanoseconds, unless it lies
in a leap second. -/
theorem nanos_le_of_le {earlier later : DateTime} (plain : earlier.time.fraction < nanosPerSecond)
    (ordered : earlier ≤ later) : earlier.nanos ≤ later.nanos := by
  have inDay : earlier.time.nanos < 86400000000000 := earlier.time.nanos_lt_of_fraction_lt plain
  rw [nanos_eq, nanos_eq]
  rcases ordered with day | ⟨day, second⟩
  · have days := Date.dayNumber_lt_of_lt day
    omega
  · rw [day]
    simp only [TimeOfDay.nanos, nanosPerSecond] at plain ⊢
    omega

/-- The day of a timestamp lies between the first and the last supported one. -/
theorem nanos_range (stamp : DateTime) :
    -8335547913600000000000 ≤ stamp.nanos ∧
      stamp.nanos ≤ 8209320105600000000000 + stamp.time.nanos := by
  obtain ⟨lower, upper⟩ := stamp.date.dayNumber_range
  rw [Date.dayNumber_first] at lower
  rw [Date.dayNumber_last] at upper
  rw [nanos_eq]
  omega

/-- Nanoseconds are cut off to microseconds toward zero. -/
theorem tdiv_thousand (nanos : Int) :
    nanos.tdiv 1000 = if 0 ≤ nanos then nanos / 1000 else -(-nanos / 1000) := by
  split
  · rename_i later
    exact Int.tdiv_eq_ediv_of_nonneg later
  · rename_i earlier
    have positive : 0 ≤ -nanos := by omega
    rw [← Int.tdiv_eq_ediv_of_nonneg positive, Int.neg_tdiv, Int.neg_neg]

/-- The microseconds of every timestamp fit 64 bits. -/
theorem micros_fit (stamp : DateTime) :
    Int64.minValue.toInt ≤ stamp.nanos.tdiv 1000 ∧
      stamp.nanos.tdiv 1000 ≤ Int64.maxValue.toInt := by
  obtain ⟨lower, upper⟩ := stamp.nanos_range
  have inDay : stamp.time.nanos < 86401000000000 := stamp.time.nanos_lt
  have least : Int64.minValue.toInt = -9223372036854775808 := rfl
  have greatest : Int64.maxValue.toInt = 9223372036854775807 := rfl
  rw [tdiv_thousand, least, greatest]
  split <;> omega

/-- So a timestamp is always sent as the number of its microseconds. -/
theorem toInt_toMicros (stamp : DateTime) : stamp.toMicros.toInt = stamp.nanos.tdiv 1000 := by
  have kept : stamp.toMicros = Int64.ofInt (stamp.nanos.tdiv 1000) := if_pos stamp.micros_fit
  obtain ⟨lower, upper⟩ := stamp.micros_fit
  rw [kept]
  exact Int64.toInt_ofInt_of_le lower (Int.lt_add_one_of_le upper)

/-- A timestamp that is not after another is not sent as a greater number, unless it lies in a leap
second. -/
theorem toMicros_le_of_le {earlier later : DateTime}
    (plain : earlier.time.fraction < nanosPerSecond) (ordered : earlier ≤ later) :
    earlier.toMicros ≤ later.toMicros := by
  rw [Int64.le_iff_toInt_le, toInt_toMicros, toInt_toMicros]
  exact Int.tdiv_le_tdiv (by decide) (nanos_le_of_le plain ordered)

/-- No timestamp is before the first. -/
theorem first_le (stamp : DateTime) : first ≤ stamp := by
  rcases Date.lt_or_eq_or_lt Date.first stamp.date with before | same | after
  · exact .inl before
  · have second : 0 < stamp.time.second ∨ 0 = stamp.time.second ∧ 0 ≤ stamp.time.fraction := by
      omega
    exact .inr ⟨same, second⟩
  · exact absurd after stamp.date.not_lt_first

/-- No timestamp outside a leap second is after the last. -/
theorem le_last {stamp : DateTime} (plain : stamp.time.fraction < nanosPerSecond) :
    stamp ≤ last := by
  rcases Date.lt_or_eq_or_lt stamp.date Date.last with before | same | after
  · exact .inl before
  · have inDay := stamp.time.second_lt
    have second : stamp.time.second < 86399 ∨
        stamp.time.second = 86399 ∧ stamp.time.fraction ≤ 999999999 := by
      simp only [secondsPerDay, nanosPerSecond] at inDay plain
      omega
    exact .inr ⟨same, second⟩
  · exact absurd after stamp.date.not_last_lt

/-- A number of microseconds leads to a supported day exactly if it lies between those of the first
and of the last timestamp. -/
theorem supported_iff_between {micros : Int64} :
    Supported micros.toInt ↔ first.toMicros ≤ micros ∧ micros ≤ last.toMicros := by
  have least : first.nanos.tdiv 1000 = -8335547913600000000 := by
    rw [nanos_eq, first, Date.dayNumber_first]
    rfl
  have greatest : last.nanos.tdiv 1000 = 8209320191999999999 := by
    rw [nanos_eq, last, Date.dayNumber_last]
    rfl
  rw [supported_iff, Int64.le_iff_toInt_le, Int64.le_iff_toInt_le, toInt_toMicros,
    toInt_toMicros, least, greatest]

/-- The timestamp of a number of microseconds is sent as that number. -/
theorem toMicros_of_ofMicros? {micros : Int64} {stamp : DateTime}
    (found : ofMicros? micros = some stamp) : stamp.toMicros = micros := by
  obtain ⟨_, distance⟩ := ofMicros?_eq_some_iff.mp found
  rw [← Int64.toInt_inj, toInt_toMicros, distance]
  exact Int.mul_tdiv_cancel _ (by decide)

/-- A timestamp on a whole microsecond lies exactly as many after the beginning of the year 2000 as
it is sent as. -/
theorem nanos_eq_toMicros {stamp : DateTime} (whole : stamp.time.fraction % 1000 = 0) :
    stamp.nanos = stamp.toMicros.toInt * 1000 := by
  have divides : stamp.nanos % 1000 = 0 := by
    rw [nanos_eq]
    simp only [TimeOfDay.nanos, nanosPerSecond]
    omega
  rw [toInt_toMicros, tdiv_thousand]
  split <;> omega

/-- What a timestamp outside leap seconds is sent as leads back to one that lies less than a
microsecond away, and to itself if it lies on a whole microsecond. -/
theorem exists_ofMicros?_toMicros {stamp : DateTime}
    (plain : stamp.time.fraction < nanosPerSecond) :
    ∃ found, ofMicros? stamp.toMicros = some found ∧
      (found.nanos - stamp.nanos).natAbs < 1000 ∧
      (stamp.time.fraction % 1000 = 0 → found = stamp) := by
  have sent := stamp.toInt_toMicros
  rw [tdiv_thousand] at sent
  obtain ⟨lower, upper⟩ := stamp.nanos_range
  have inDay : stamp.time.nanos < 86400000000000 := stamp.time.nanos_lt_of_fraction_lt plain
  have supported : Supported stamp.toMicros.toInt := by
    rw [supported_iff]
    split at sent <;> omega
  cases read : ofMicros? stamp.toMicros with
  | none => exact absurd supported (ofMicros?_eq_none_iff.mp read)
  | some found =>
    obtain ⟨_, distance⟩ := ofMicros?_eq_some_iff.mp read
    refine ⟨found, rfl, ?_, ?_⟩
    · split at sent <;> omega
    · intro whole
      have again := ofMicros?_eq_some_iff.mpr ⟨plain, nanos_eq_toMicros whole⟩
      exact Option.some.inj (read.symm.trans again)

/-- The time of day of a timestamp outside leap seconds is that of the number of microseconds after
which it lies. -/
theorem ofMicros?_time {micros : Int} {stamp : DateTime}
    (plain : stamp.time.fraction < nanosPerSecond) (distance : stamp.nanos = micros * 1000) :
    TimeOfDay.ofMicros? micros = some stamp.time := by
  have inDay : stamp.time.nanos < 86400000000000 := stamp.time.nanos_lt_of_fraction_lt plain
  have day : microsPerDay = 86400000000 := rfl
  rw [nanos_eq] at distance
  rw [TimeOfDay.ofMicros?_eq_some_iff, day]
  -- The days of the timestamp are whole days of microseconds, before the year 2000 as after it.
  exact ⟨plain, by omega⟩

end DateTime
end SqlWire
