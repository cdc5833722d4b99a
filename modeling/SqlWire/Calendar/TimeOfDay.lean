import SqlWire.Number.Decimal

/-!
# Times of day

A time of day is a second of the day and the nanoseconds that have passed since. The last second of
a minute may be followed by a leap second, which is counted as a part of it: its nanoseconds then
run on past a full second. A time is sent as microseconds, of which only the remainder by one day
counts, so every number of microseconds has a time of day, and none has one in a leap second. The
written form shows a leap second as second sixty, and the fraction of the second with three, six or
nine digits, the fewest that are exact, and not at all when it is zero.
-/
namespace SqlWire

/-- Nanoseconds of a second. -/
def nanosPerSecond : Nat := 1000000000

/-- Seconds of a day. -/
def secondsPerDay : Nat := 86400

/-- Nanoseconds of a day. -/
def nanosPerDay : Nat := secondsPerDay * nanosPerSecond

/-- Microseconds of a day. -/
def microsPerDay : Int := 86400000000

/-- Nanoseconds that may pass within a second of the day: the last one of a minute has room for a
leap second. -/
def TimeOfDay.room (second : Nat) : Nat :=
  if second % 60 = 59 then 2 * nanosPerSecond else nanosPerSecond

/-- A time of day. -/
structure TimeOfDay where
  /-- Seconds since midnight, leap seconds not counted. -/
  second : Nat
  /-- Nanoseconds since the beginning of that second. -/
  fraction : Nat
  /-- The second lies before the next midnight. -/
  second_lt : second < secondsPerDay
  /-- The second is not over; only the last one of a minute runs on into a leap second. -/
  fraction_lt : fraction < TimeOfDay.room second
  deriving DecidableEq

namespace TimeOfDay

/-- The time of a second of the day and the nanoseconds since. -/
def ofSecond? (second fraction : Nat) : Option TimeOfDay :=
  if bounds : second < secondsPerDay ∧ fraction < room second then
    some ⟨second, fraction, bounds.1, bounds.2⟩
  else none

/-- The time that a clock shows. -/
def ofClock? (hour minute second fraction : Nat) : Option TimeOfDay :=
  if hour < 24 ∧ minute < 60 ∧ second < 60 then
    ofSecond? (hour * 3600 + minute * 60 + second) fraction
  else none

/-- The time of day of a number of microseconds since some midnight. -/
def ofMicros? (micros : Int) : Option TimeOfDay :=
  let ofDay := (micros % microsPerDay).toNat
  ofSecond? (ofDay / 1000000) (ofDay % 1000000 * 1000)

/-- Nanoseconds since midnight. -/
def nanos (time : TimeOfDay) : Nat := time.second * nanosPerSecond + time.fraction

/-- Outside a leap second, a time lies before the next midnight. -/
theorem nanos_lt_of_fraction_lt (time : TimeOfDay) (plain : time.fraction < nanosPerSecond) :
    time.nanos < nanosPerDay := by
  have bound := time.second_lt
  simp only [nanos, nanosPerDay, secondsPerDay, nanosPerSecond] at *
  omega

/-- A point and the fewest groups of three digits that write the fraction exactly. -/
def fractionText (nanosecond : Nat) : List Char :=
  if nanosecond = 0 then []
  else if nanosecond % 1000000 = 0 then '.' :: Number.padded 3 (nanosecond / 1000000)
  else if nanosecond % 1000 = 0 then '.' :: Number.padded 6 (nanosecond / 1000)
  else '.' :: Number.padded 9 nanosecond

/-- Hour, minute and second with colons between them, and the fraction. A full second in the
fraction moves the second shown from fifty-nine to sixty. -/
def text (time : TimeOfDay) : List Char :=
  let shown := time.second % 60 + time.fraction / nanosPerSecond
  Number.padded 2 (time.second / 3600) ++ [':'] ++ Number.padded 2 (time.second / 60 % 60) ++
    [':'] ++ Number.padded 2 shown ++ fractionText (time.fraction % nanosPerSecond)

end TimeOfDay
end SqlWire
