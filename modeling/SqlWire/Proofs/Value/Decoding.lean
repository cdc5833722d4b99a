import SqlWire.Proofs.Calendar.DateTime
import SqlWire.Proofs.Parameter.Decoded

/-!
# Bytes that are values

Two things can be wrong with bytes that should be a value: their number, where the type fixes it, or
a timestamp outside the supported years. Everything else is a value
(`Value.decode_eq_error_iff`). A whole number comes in eight bytes or, where they hold it, in four,
and the reader finds the same number in either (`Value.wholeNumber_eq_ok_iff`).
-/
namespace SqlWire

/-- The numbers of bytes that a value of the type may have, if not every number will do. A refusal
names the last of them. -/
def WireType.widths : WireType → List Nat
  | .integer | .bigint | .boolean | .refCursor => [4, 8]
  | .real | .date | .timestamp | .timestampZoned | .timestampLocal | .time
  | .intervalDaySecond => [8]
  | .intervalYearMonth => [4]
  | _ => []

/-- The bytes of a whole number: eight of them, or four for a number that they hold. -/
inductive Codec.Spells (codec : Codec) : Int64 → Bytes → Prop where
  /-- Eight bytes. -/
  | eight (number : Int64) : codec.Spells number (codec.encodeInt64 number)
  /-- Four bytes. -/
  | four (number : Int32) : codec.Spells number.toInt64 (codec.encodeInt32 number)

/-- A number of microseconds is refused exactly if it leads to no supported day. -/
theorem DateTime.ofMicros_eq_error {micros : Int64} {error : Error} :
    ofMicros micros = .error error ↔
      ¬ Supported micros.toInt ∧ error = .type (.dateTimeRange micros) := by
  rw [← ofMicros?_eq_none_iff, ofMicros]
  cases ofMicros? micros <;> simp [eq_comm]

/-- No number of microseconds is refused as a time of day. -/
theorem TimeOfDay.ofMicros_ne_error {micros : Int64} {error : Error} :
    ofMicros micros ≠ .error error := by
  obtain ⟨time, timed⟩ := exists_ofMicros? micros.toInt
  simp [ofMicros, timed]

namespace Value

variable {codec : Codec} {type : WireType} {bytes : Bytes} {error : Error}

/-- Bytes pass exactly if they are as many as required. -/
theorem checkWidth_eq_ok {width : Nat} {word : Bytes} :
    checkWidth type width bytes = .ok word ↔ bytes.length = width ∧ bytes = word := by
  unfold checkWidth
  split
  · rename_i same
    simp [same]
  · rename_i other
    simp [other]

/-- Bytes are refused exactly if they are not as many as required. -/
theorem checkWidth_eq_error {width : Nat} :
    checkWidth type width bytes = .error error ↔
      bytes.length ≠ width ∧ error = .protocol (.valueWidth type width bytes.length) := by
  unfold checkWidth
  split
  · rename_i same
    simp [same]
  · rename_i other
    simp [other, eq_comm (b := error)]

/-- Bytes are no whole number exactly if they are neither four nor eight. -/
theorem wholeNumber_eq_error :
    wholeNumber codec type bytes = .error error ↔
      bytes.length ∉ [4, 8] ∧ error = .protocol (.valueWidth type 8 bytes.length) := by
  unfold wholeNumber
  split
  · simp [*]
  · simp [*, Action.except_bind_eq_error, checkWidth_eq_error]

/-- Bytes are read as the whole number that they spell. -/
theorem wholeNumber_eq_ok_iff {number : Int64} :
    wholeNumber codec type bytes = .ok number ↔ codec.Spells number bytes := by
  constructor
  · intro read
    unfold wholeNumber at read
    split at read
    · rename_i four
      cases read
      have written : codec.encodeInt32 (codec.decodeInt32 bytes) = bytes := by
        simp [Codec.encodeInt32, Codec.decodeInt32, codec.order.u32_ofU32 four]
      have spelled : codec.Spells _ _ := .four (codec.decodeInt32 bytes)
      rwa [written] at spelled
    · obtain ⟨word, passed, read⟩ := Action.except_bind_eq_ok.mp read
      obtain ⟨eight, rfl⟩ := checkWidth_eq_ok.mp passed
      cases read
      have written : codec.encodeInt64 (codec.decodeInt64 bytes) = bytes := by
        simp [Codec.encodeInt64, Codec.decodeInt64, codec.order.u64_ofU64 eight]
      have spelled : codec.Spells _ _ := .eight (codec.decodeInt64 bytes)
      rwa [written] at spelled
  · intro spelled
    cases spelled with
    | eight => exact wholeNumber_encodeInt64 codec type number
    | four short => exact wholeNumber_encodeInt32 codec type short

/-- The whole number of a value made of one is that number, in either form. -/
theorem toInt64?_ofInteger (number : Int64) : (ofInteger number).toInt64? = some number := by
  unfold ofInteger
  split
  · rename_i fits
    simp [toInt64?, toInt64_toInt32_of_fits fits]
  · rfl

/-- Bytes are refused for their number, where the type fixes it, or else for a timestamp outside
the supported years, and for nothing else. -/
theorem decode_eq_error_iff :
    decode codec type bytes = .error error ↔
      (∃ width, type.widths.getLast? = some width ∧ bytes.length ∉ type.widths ∧
        error = .protocol (.valueWidth type width bytes.length)) ∨
      (type ∈ [WireType.date, .timestamp, .timestampZoned, .timestampLocal] ∧
        bytes.length = 8 ∧ ¬ DateTime.Supported (codec.decodeInt64 bytes).toInt ∧
        error = .type (.dateTimeRange (codec.decodeInt64 bytes))) := by
  cases type with
  | integer | bigint | refCursor | boolean =>
    simp [decode, WireType.widths, Action.except_bind_eq_error, wholeNumber_eq_error]
  | real | intervalYearMonth | intervalDaySecond =>
    simp [decode, WireType.widths, Action.except_bind_eq_error, checkWidth_eq_error]
  | time =>
    simp [decode, WireType.widths, Action.except_bind_eq_error, checkWidth_eq_error,
      TimeOfDay.ofMicros_ne_error]
  | date | timestamp | timestampZoned | timestampLocal =>
    simp [decode, WireType.widths, Action.except_bind_eq_error, checkWidth_eq_error,
      checkWidth_eq_ok, DateTime.ofMicros_eq_error]
  | number | decimal | char | varchar | text | clob | binary | varbinary | raw | blob
  | unspecified => simp [decode, WireType.widths]

/-- Four and eight bytes of one number are the same value. -/
theorem decode_encodeInt32 {number : Int32}
    (whole : type ∈ [WireType.integer, .bigint, .boolean]) :
    decode codec type (codec.encodeInt32 number) =
      decode codec type (codec.encodeInt64 number.toInt64) := by
  simp only [List.mem_cons, List.not_mem_nil, or_false] at whole
  rcases whole with rfl | rfl | rfl <;>
    simp only [decode, wholeNumber_encodeInt32, wholeNumber_encodeInt64]

/-- A number that does not fit 32 bits is kept as it is. -/
theorem decode_integer_of_wide {number : Int64}
    (wide : number.toInt < -2147483648 ∨ 2147483647 < number.toInt) :
    decode codec .integer (codec.encodeInt64 number) = .ok (.bigint number) := by
  have least : Int32.minValue.toInt = -2147483648 := rfl
  have greatest : Int32.maxValue.toInt = 2147483647 := rfl
  have unfit : fitsInt32 number = false := by
    simp only [fitsInt32, least, greatest, Bool.and_eq_false_iff, decide_eq_false_iff_not]
    omega
  simp [decode, wholeNumber_encodeInt64, bind, Except.bind, ofInteger, unfit]

/-- A whole number converts to the number that its bytes spell, and they spell no other. -/
theorem exists_toInt64?_of_decode {value : Value} (whole : type ∈ [WireType.integer, .bigint])
    (decoded : decode codec type bytes = .ok value) :
    ∃ number, value.toInt64? = some number ∧
      ∀ other, codec.Spells other bytes ↔ other = number := by
  have found : ∃ number, wholeNumber codec type bytes = .ok number ∧
      value.toInt64? = some number := by
    simp only [List.mem_cons, List.not_mem_nil, or_false] at whole
    rcases whole with rfl | rfl
    · obtain ⟨number, read, made⟩ := Action.except_bind_eq_ok.mp decoded
      cases made
      exact ⟨number, read, toInt64?_ofInteger number⟩
    · obtain ⟨number, read, made⟩ := Action.except_bind_eq_ok.mp decoded
      cases made
      exact ⟨number, read, rfl⟩
  obtain ⟨number, read, converted⟩ := found
  refine ⟨number, converted, ?_⟩
  intro other
  have spelled : wholeNumber codec type bytes = .ok other ↔ codec.Spells other bytes :=
    wholeNumber_eq_ok_iff
  rw [← spelled, read, Except.ok.injEq, eq_comm]

/-- Bytes are refused with an error about the protocol exactly if their type fixes their number and
they are not as many, and with an error about types exactly if they are eight bytes of a timestamp
outside the supported years; no other error comes. Four and eight bytes of one number are the same
value of INTEGER, BIGINT or BOOLEAN, a number of INTEGER that does not fit 32 bits is kept as it is,
and what an INTEGER or BIGINT converts to is the one number that its bytes spell. -/
theorem refused_by_width_or_range (codec : Codec) :
    (∀ type bytes error, decode codec type bytes = .error error ↔
      (∃ width, type.widths.getLast? = some width ∧ bytes.length ∉ type.widths ∧
        error = .protocol (.valueWidth type width bytes.length)) ∨
      (type ∈ [WireType.date, .timestamp, .timestampZoned, .timestampLocal] ∧
        bytes.length = 8 ∧ ¬ DateTime.Supported (codec.decodeInt64 bytes).toInt ∧
        error = .type (.dateTimeRange (codec.decodeInt64 bytes)))) ∧
    (∀ type ∈ [WireType.integer, .bigint, .boolean], ∀ number : Int32,
      decode codec type (codec.encodeInt32 number) =
        decode codec type (codec.encodeInt64 number.toInt64)) ∧
    (∀ number : Int64, number.toInt < -2147483648 ∨ 2147483647 < number.toInt →
      decode codec .integer (codec.encodeInt64 number) = .ok (.bigint number)) ∧
    (∀ type ∈ [WireType.integer, .bigint], ∀ bytes value, decode codec type bytes = .ok value →
      ∃ number, value.toInt64? = some number ∧
        ∀ other, codec.Spells other bytes ↔ other = number) := by
  constructor
  · intro type bytes error
    exact decode_eq_error_iff
  constructor
  · intro type whole number
    exact decode_encodeInt32 whole
  constructor
  · intro number wide
    exact decode_integer_of_wide wide
  · intro type whole bytes value decoded
    exact exists_toInt64?_of_decode whole decoded

/-- Three bytes of INTEGER, a DATE after the last supported day, minus three as BOOLEAN, the first
number that takes more than 32 bits, and minus three as INTEGER. -/
theorem refused_by_width_or_range_signed :
    let codec : Codec := ⟨.big, .utf8⟩
    decode codec .integer [0, 0, 5] = .error (.protocol (.valueWidth .integer 8 3)) ∧
      decode codec .date (codec.encodeInt64 8209320192000000000) =
        .error (.type (.dateTimeRange 8209320192000000000)) ∧
      decode codec .boolean [255, 255, 255, 253] =
        decode codec .boolean [255, 255, 255, 255, 255, 255, 255, 253] ∧
      decode codec .integer [0, 0, 0, 0, 128, 0, 0, 0] = .ok (.bigint 2147483648) ∧
      ∃ number, (Value.int (-3)).toInt64? = some number ∧
        ∀ other, codec.Spells other [255, 255, 255, 253] ↔ other = number := by
  intro codec
  obtain ⟨refused, same, kept, converted⟩ := refused_by_width_or_range codec
  have late : ¬ DateTime.Supported
      (codec.decodeInt64 (codec.encodeInt64 8209320192000000000)).toInt := by
    rw [DateTime.supported_iff]
    decide
  have short := (refused .integer [0, 0, 5] _).mpr (.inl ⟨8, rfl, by decide, rfl⟩)
  have outside := (refused .date (codec.encodeInt64 8209320192000000000) _).mpr
    (.inr ⟨by decide, rfl, late, rfl⟩)
  have wide := kept 2147483648 (by decide)
  exact ⟨short, outside, same .boolean (by decide) (-3), wide,
    converted .integer (by decide) [255, 255, 255, 253] _ rfl⟩

end Value
end SqlWire
