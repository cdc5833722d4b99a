import SqlWire.Calendar.Date
import SqlWire.Calendar.TimeOfDay

/-!
# Timestamps

A timestamp is a date and a time of day. On the wire it is the signed number of microseconds since
the beginning of the year 2000. Writing drops what is finer than a microsecond, toward the epoch;
reading refuses a number whose day lies outside the supported years.
-/
namespace SqlWire

/-- A date and a time of day. -/
structure DateTime where
  /-- The date. -/
  date : Date
  /-- The time of that day. -/
  time : TimeOfDay
  deriving DecidableEq

namespace DateTime

/-- Nanoseconds since the beginning of the year 2000. Leap seconds before the timestamp are not
counted, so one within a leap second has the number of the second that follows. -/
def nanos (stamp : DateTime) : Int :=
  stamp.date.dayNumber * Int.ofNat nanosPerDay + Int.ofNat stamp.time.nanos

/-- Whole microseconds since the beginning of the year 2000, cut off toward the epoch. A number
that 64 bits cannot hold would be sent as the greatest they can. -/
def toMicros (stamp : DateTime) : Int64 :=
  let micros := stamp.nanos.tdiv 1000
  if Int64.minValue.toInt ≤ micros ∧ micros ≤ Int64.maxValue.toInt then Int64.ofInt micros
  else Int64.maxValue

/-- The timestamp a number of microseconds after the beginning of the year 2000. -/
def ofMicros? (micros : Int64) : Option DateTime := do
  let date ← Date.ofDayNumber? (micros.toInt / microsPerDay)
  let time ← TimeOfDay.ofMicros? micros.toInt
  some ⟨date, time⟩

/-- Date and time with a separator between them. -/
def textWith (separator : Char) (stamp : DateTime) : String :=
  String.ofList (stamp.date.text ++ [separator] ++ stamp.time.text)

/-- Date and time with a blank between them. -/
def text (stamp : DateTime) : String := stamp.textWith ' '

end DateTime
end SqlWire
