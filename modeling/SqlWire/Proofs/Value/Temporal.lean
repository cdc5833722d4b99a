import SqlWire.Proofs.Parameter.Retyped
import SqlWire.Proofs.Value.Decoding

/-!
# Timestamps and times of day on the wire

Timestamps and times of day travel as numbers of microseconds. A timestamp has one number, which
64 bits hold, later timestamps have no smaller ones, and every number up to that of the last
timestamp leads back to the timestamp that has it (`DateTime.micros_lead_back`). Every number is
that of a time of day, and where it is that of a timestamp too, the time is the timestamp's
(`TimeOfDay.agrees_with_timestamp`). A leap second has no number of its own, so a timestamp in one
comes back as a time of the next day (`Argument.leap_second_read_as_next_day`).
-/
namespace SqlWire

/-- A number of microseconds is read as the timestamp that is found for it. -/
theorem DateTime.ofMicros_eq_ok {micros : Int64} {stamp : DateTime} :
    ofMicros micros = .ok stamp ↔ ofMicros? micros = some stamp := by
  rw [ofMicros]
  cases ofMicros? micros <;> simp

/-- A number of microseconds is read as the time of day that is found for it. -/
theorem TimeOfDay.ofMicros_eq_ok {micros : Int64} {time : TimeOfDay} :
    ofMicros micros = .ok time ↔ ofMicros? micros.toInt = some time := by
  rw [ofMicros]
  cases ofMicros? micros.toInt <;> simp

/-- Two numbers of microseconds are read as the same time of day exactly if they differ by whole
days. -/
theorem TimeOfDay.ofMicros_eq_iff {one other : Int64} :
    ofMicros one = ofMicros other ↔
      one.toInt % microsPerDay = other.toInt % microsPerDay := by
  obtain ⟨time, found⟩ := exists_ofMicros? one.toInt
  obtain ⟨plain, distance⟩ := ofMicros?_eq_some_iff.mp found
  have same : ofMicros one = ofMicros other ↔ ofMicros? other.toInt = some time := by
    rw [ofMicros_eq_ok.mpr found, eq_comm, ofMicros_eq_ok]
  rw [same, ofMicros?_eq_some_iff, distance]
  constructor
  · rintro ⟨_, remainder⟩
    omega
  · intro remainder
    exact ⟨plain, by rw [remainder]⟩

/-- Timestamps and numbers of microseconds. The microseconds between the beginning of the year 2000
and a timestamp fit 64 bits, and the timestamp is sent as their number. Outside leap seconds a
timestamp that is not after another is not sent as a greater number, and what it is sent as is read
as a timestamp less than a microsecond away, which is the same one if that lies on a whole
microsecond. A number from that of the first timestamp to that of the last is read as a timestamp
that is sent as this number, and any other number is refused with an error about types. -/
theorem DateTime.micros_lead_back :
    (∀ stamp : DateTime,
      Int64.minValue.toInt ≤ stamp.nanos.tdiv 1000 ∧
        stamp.nanos.tdiv 1000 ≤ Int64.maxValue.toInt ∧
        stamp.toMicros.toInt = stamp.nanos.tdiv 1000) ∧
    (∀ earlier later : DateTime, earlier.time.fraction < nanosPerSecond → earlier ≤ later →
      earlier.toMicros ≤ later.toMicros) ∧
    (∀ stamp : DateTime, stamp.time.fraction < nanosPerSecond →
      first ≤ stamp ∧ stamp ≤ last ∧
        ∃ found, ofMicros stamp.toMicros = .ok found ∧
          (found.nanos - stamp.nanos).natAbs < 1000 ∧
          (stamp.time.fraction % 1000 = 0 → found = stamp)) ∧
    (∀ micros : Int64, first.toMicros ≤ micros → micros ≤ last.toMicros →
      ∃ stamp, ofMicros micros = .ok stamp ∧ stamp.toMicros = micros) ∧
    (∀ micros : Int64, micros < first.toMicros ∨ last.toMicros < micros →
      ofMicros micros = .error (.type (.dateTimeRange micros))) := by
  refine ⟨?_, ?_, ?_, ?_, ?_⟩
  · intro stamp
    exact ⟨stamp.micros_fit.1, stamp.micros_fit.2, stamp.toInt_toMicros⟩
  · intro earlier later plain ordered
    exact toMicros_le_of_le plain ordered
  · intro stamp plain
    obtain ⟨found, read, near, same⟩ := exists_ofMicros?_toMicros plain
    exact ⟨stamp.first_le, le_last plain, found, ofMicros_eq_ok.mpr read, near, same⟩
  · intro micros lower upper
    have supported := supported_iff_between.mpr ⟨lower, upper⟩
    cases read : ofMicros? micros with
    | none => exact absurd supported (ofMicros?_eq_none_iff.mp read)
    | some stamp => exact ⟨stamp, ofMicros_eq_ok.mpr read, toMicros_of_ofMicros? read⟩
  · intro micros outside
    have unsupported : ¬ Supported micros.toInt := by
      rw [supported_iff_between]
      rintro ⟨lower, upper⟩
      rcases outside with before | after
      · exact absurd lower (Int64.not_le.mpr before)
      · exact absurd upper (Int64.not_le.mpr after)
    exact ofMicros_eq_error.mpr ⟨unsupported, rfl⟩

/-- A timestamp a microsecond before the year 2000 comes back, and one a nanosecond before it, which
is sent as no microseconds at all, comes back as less than a microsecond later. The number of the
last timestamp is read, and the next one is refused. -/
theorem DateTime.micros_lead_back_before_epoch :
    let day : Date := ⟨1999, 12, 31, by decide, by decide, by decide⟩
    let whole : DateTime := ⟨day, ⟨86399, 999999000, by decide, by decide⟩⟩
    let finer : DateTime := ⟨day, ⟨86399, 999999999, by decide, by decide⟩⟩
    whole.toMicros ≤ finer.toMicros ∧ ofMicros whole.toMicros = .ok whole ∧
      finer.toMicros = 0 ∧
      (∃ found, ofMicros finer.toMicros = .ok found ∧
        (found.nanos - finer.nanos).natAbs < 1000) ∧
      (∃ stamp, ofMicros 8209320191999999999 = .ok stamp ∧
        stamp.toMicros = 8209320191999999999) ∧
      ofMicros 8209320192000000000 = .error (.type (.dateTimeRange 8209320192000000000)) := by
  intro day whole finer
  obtain ⟨_, ordered, back, within, outside⟩ := micros_lead_back
  have later : whole ≤ finer := .inr ⟨rfl, .inr ⟨rfl, by decide⟩⟩
  refine ⟨ordered whole finer (by decide) later, ?_, by decide +kernel, ?_, ?_, ?_⟩
  · obtain ⟨_, _, found, read, _, same⟩ := back whole (by decide)
    rw [same (by decide)] at read
    exact read
  · obtain ⟨_, _, found, read, near, _⟩ := back finer (by decide)
    exact ⟨found, read, near⟩
  · exact within _ (by decide +kernel) (by decide +kernel)
  · exact outside _ (.inr (by decide +kernel))

/-- Times of day and numbers of microseconds. Every number is read as a time of day, which lies
outside leap seconds and as far after midnight as the number is behind the last whole day, so two
numbers are read as the same time exactly if their remainders by one day are the same. A number that
is read as a timestamp, which is the one that lies as many microseconds after the beginning of the
year 2000, is read as its time of day. A timestamp on a whole microsecond outside leap seconds that
is bound as a time is read as its time of day, before the year 2000 as after it. -/
theorem TimeOfDay.agrees_with_timestamp :
    (∀ micros : Int64, ∃ time, ofMicros micros = .ok time ∧ time.fraction < nanosPerSecond ∧
      (time.nanos : Int) = micros.toInt % microsPerDay * 1000) ∧
    (∀ one other : Int64, ofMicros one = ofMicros other ↔
      one.toInt % microsPerDay = other.toInt % microsPerDay) ∧
    (∀ (micros : Int64) (stamp : DateTime), DateTime.ofMicros micros = .ok stamp →
      stamp.nanos = micros.toInt * 1000 ∧ ofMicros micros = .ok stamp.time) ∧
    (∀ (list : ParameterList) (ordinal : Nat) (slot : Slot) (stamp : DateTime),
      list.slot ordinal = .ok slot → stamp.time.fraction < nanosPerSecond →
      stamp.time.fraction % 1000 = 0 →
      ∃ after bound,
        ParameterList.bindValue ordinal .time (.dateTime stamp) list = .ok () after ∧
        after.slot ordinal = .ok bound ∧
        Value.decode list.codec .time bound.encoded = .ok (.time stamp.time)) := by
  refine ⟨?_, ?_, ?_, ?_⟩
  · intro micros
    obtain ⟨time, found⟩ := exists_ofMicros? micros.toInt
    exact ⟨time, ofMicros_eq_ok.mpr found, ofMicros?_eq_some_iff.mp found⟩
  · intro one other
    exact ofMicros_eq_iff
  · intro micros stamp read
    obtain ⟨plain, distance⟩ := DateTime.ofMicros?_eq_some_iff.mp (DateTime.ofMicros_eq_ok.mp read)
    exact ⟨distance, ofMicros_eq_ok.mpr (DateTime.ofMicros?_time plain distance)⟩
  · intro list ordinal slot stamp there plain whole
    have read : ofMicros stamp.toMicros = .ok stamp.time :=
      ofMicros_eq_ok.mpr (DateTime.ofMicros?_time plain (DateTime.nanos_eq_toMicros whole))
    have made : (Argument.dateTime stamp).encode list.codec .time =
        .ok (list.codec.encodeInt64 stamp.toMicros) := rfl
    have bound := ParameterList.bindValue_eq_ok.mpr ⟨slot, _, there, made, rfl⟩
    have decoded := Value.decode_time list.codec stamp.toMicros
    rw [read] at decoded
    exact ⟨_, _, bound, ParameterList.slot_setSlot there _, decoded⟩

/-- A microsecond before the year 2000 is read as the last one of a day, and the timestamp is bound
as a time and read as that. -/
theorem TimeOfDay.agrees_with_timestamp_before_epoch :
    let time : TimeOfDay := ⟨86399, 999999000, by decide, by decide⟩
    let stamp : DateTime := ⟨⟨1999, 12, 31, by decide, by decide, by decide⟩, time⟩
    let list := ParameterList.ofCount 1 ⟨.little, .utf8⟩
    (stamp.nanos = -1000 ∧ ofMicros (-1) = .ok time) ∧
      ∃ after bound,
        ParameterList.bindValue 1 .time (.dateTime stamp) list = .ok () after ∧
        after.slot 1 = .ok bound ∧
        Value.decode ⟨.little, .utf8⟩ .time bound.encoded = .ok (.time time) := by
  intro time stamp list
  obtain ⟨_, _, agree, sent⟩ := agrees_with_timestamp
  have read : DateTime.ofMicros (-1) = .ok stamp :=
    DateTime.ofMicros_eq_ok.mpr (DateTime.ofMicros?_eq_some_iff.mpr ⟨by decide, by decide +kernel⟩)
  exact ⟨agree (-1) stamp read, sent list 1 default stamp rfl (by decide) (by decide)⟩

/-- The leap second at the end of the year 2016 lies on a whole microsecond. It is sent as the
number of the midnight that follows, so bound as a time it is read as that. -/
theorem Argument.leap_second_read_as_next_day :
    let stamp : DateTime :=
      ⟨⟨2016, 12, 31, by decide, by decide, by decide⟩,
        ⟨86399, 1000000000, by decide, by decide⟩⟩
    let midnight : TimeOfDay := ⟨0, 0, by decide, by decide⟩
    let list := ParameterList.ofCount 1 ⟨.little, .utf8⟩
    stamp.time.fraction % 1000 = 0 ∧ midnight ≠ stamp.time ∧
      stamp.toMicros = 536544000000000 ∧
      ∃ after bound,
        ParameterList.bindValue 1 .time (.dateTime stamp) list = .ok () after ∧
        after.slot 1 = .ok bound ∧
        Value.decode ⟨.little, .utf8⟩ .time bound.encoded = .ok (.time midnight) := by
  intro stamp midnight list
  have read : TimeOfDay.ofMicros stamp.toMicros = .ok midnight :=
    TimeOfDay.ofMicros_eq_ok.mpr (by decide +kernel)
  have decoded := Value.decode_time ⟨.little, .utf8⟩ stamp.toMicros
  rw [read] at decoded
  exact ⟨by decide, by decide, by decide +kernel, _, _, rfl, rfl, decoded⟩

end SqlWire
