import SqlWire.Proofs.Calendar.DateTime
import SqlWire.Proofs.Number.Decimal
import SqlWire.Proofs.Text.Sent

/-!
# Arguments that are read again

Arguments are encoded by one table of types, and values are decoded by another. On every type under
which an argument can be sent the two agree: the bytes are read as the whole number, the
double-precision number, the text or the bytes that the argument stands for
(`encoded_argument_decoded`). The character set has a say in texts alone, and a text comes back in
every character set that keeps its characters.
-/
namespace SqlWire

open Reader (Finds)

/-- A whole number of 32 bits fits them. -/
theorem fitsInt32_toInt64 (number : Int32) : fitsInt32 number.toInt64 = true := by
  rw [fitsInt32, Int32.toInt_toInt64, Bool.and_eq_true, decide_eq_true_eq, decide_eq_true_eq]
  exact ⟨number.minValue_le_toInt, number.toInt_le⟩

/-- A whole number that fits 32 bits is the same in them. -/
theorem toInt64_toInt32_of_fits {value : Int64} (fits : fitsInt32 value = true) :
    value.toInt32.toInt64 = value := by
  rw [fitsInt32, Bool.and_eq_true, decide_eq_true_eq, decide_eq_true_eq] at fits
  have least : Int32.minValue.toInt = -2147483648 := rfl
  have greatest : Int32.maxValue.toInt = 2147483647 := rfl
  rw [← Int64.toInt_inj, Int32.toInt_toInt64, Int64.toInt_toInt32]
  exact Int.bmod_eq_of_le (by omega) (by omega)

/-- A whole number is narrowed to the one of 32 bits that equals it. -/
theorem eq_of_narrow {target : String} {value : Int64} {number : Int32}
    (narrowed : narrow target value = .ok number) : value = number.toInt64 := by
  unfold narrow at narrowed
  split at narrowed
  · rename_i fits
    cases narrowed
    exact (toInt64_toInt32_of_fits fits).symm
  · cases narrowed

/-- A whole number of 64 bits is read back. -/
theorem Codec.decodeInt64_encodeInt64 (codec : Codec) (number : Int64) :
    codec.decodeInt64 (codec.encodeInt64 number) = number := by
  simp [encodeInt64, decodeInt64]

namespace Value

variable (codec : Codec)

/-- A whole number of 64 bits has eight bytes. -/
theorem checkWidth_encodeInt64 (type : WireType) (number : Int64) :
    checkWidth type 8 (codec.encodeInt64 number) = .ok (codec.encodeInt64 number) :=
  if_pos (codec.order.length_u64 _)

/-- Four bytes are read as the whole number that they were written for. -/
theorem wholeNumber_encodeInt32 (type : WireType) (number : Int32) :
    wholeNumber codec type (codec.encodeInt32 number) = .ok number.toInt64 := by
  simp [wholeNumber, Codec.encodeInt32, Codec.decodeInt32]

/-- Eight bytes are read as the whole number that they were written for. -/
theorem wholeNumber_encodeInt64 (type : WireType) (number : Int64) :
    wholeNumber codec type (codec.encodeInt64 number) = .ok number := by
  have eight : (codec.encodeInt64 number).length ≠ 4 := by simp [Codec.encodeInt64]
  rw [wholeNumber, if_neg eight, checkWidth_encodeInt64]
  exact congrArg Except.ok (codec.decodeInt64_encodeInt64 number)

/-- A whole number of four bytes stays one of 32 bits. -/
theorem decode_integer (number : Int32) :
    decode codec .integer (codec.encodeInt32 number) = .ok (.int number) := by
  simp [decode, wholeNumber_encodeInt32, ofInteger, fitsInt32_toInt64, bind, Except.bind]

/-- A whole number of eight bytes. -/
theorem decode_bigint (number : Int64) :
    decode codec .bigint (codec.encodeInt64 number) = .ok (.bigint number) := by
  simp [decode, wholeNumber_encodeInt64, bind, Except.bind]

/-- A double-precision number keeps its bits. -/
theorem decode_real (number : Binary64) :
    decode codec .real (codec.encodeReal number) = .ok (.real number) := by
  simp [decode, checkWidth, Codec.encodeReal, Codec.decodeReal, bind, Except.bind]

/-- A number of microseconds under a type of timestamps. -/
theorem decode_timestamp {type : WireType}
    (temporal : type = .date ∨ type = .timestamp ∨ type = .timestampLocal) (micros : Int64) :
    decode codec type (codec.encodeInt64 micros) =
      (DateTime.ofMicros micros).map .dateTime := by
  rcases temporal with rfl | rfl | rfl <;>
  · simp only [decode, checkWidth_encodeInt64, bind, Except.bind, Codec.decodeInt64_encodeInt64]
    cases DateTime.ofMicros micros <;> rfl

/-- A number of microseconds under the type of times of day. -/
theorem decode_time (micros : Int64) :
    decode codec .time (codec.encodeInt64 micros) = (TimeOfDay.ofMicros micros).map .time := by
  simp only [decode, checkWidth_encodeInt64, bind, Except.bind, Codec.decodeInt64_encodeInt64]
  cases TimeOfDay.ofMicros micros <;> rfl

end Value

namespace Argument

/-- Whether bytes that were made under a type carry a payload. Numbers of fixed width are their own
payload, and everything else is the payload of a field that takes all of the bytes. -/
def Carries (order : ByteOrder) (type : WireType) (bytes payload : Bytes) : Prop :=
  match type with
  | .integer => payload = bytes ∧ payload.length = 4
  | .bigint | .real | .time | .date | .timestamp | .timestampLocal =>
    payload = bytes ∧ payload.length = 8
  | _ => (Reader.field order).Finds bytes payload

/-- Whether an argument stands for a whole number: a number for itself, a truth value for one or
zero, a timestamp for the microseconds since the beginning of the year 2000, cut off toward it, and
a text for the number that it writes between blanks. -/
def IsWhole (number : Int) : Argument → Prop
  | .int value => number = value.toInt
  | .long value => number = value.toInt
  | .boolean value => number = if value then 1 else 0
  | .dateTime stamp => number = stamp.nanos.tdiv 1000
  | .text content => Number.WritesSigned (Text.trim content).toList number
  | .null | .double _ | .bytes _ => False

/-- Whether an argument stands for a double-precision number: one with the same bits, the one that a
whole number is rounded to, or the one that a text writes between blanks. -/
def IsReal (number : Binary64) : Argument → Prop
  | .int value => number = .ofInt value.toInt
  | .long value => number = .ofInt value.toInt
  | .double value => number.bits = value.bits
  | .text content => Number.binary64? (Text.trim content) = some number
  | .null | .boolean _ | .bytes _ | .dateTime _ => False

/-- Whether an argument stands for a text: a text for itself, a number for its decimal writing, a
truth value for its word, and a timestamp for its date and its time of day with a blank between. -/
def IsText (text : String) : Argument → Prop
  | .int value => text = toString value.toInt
  | .long value => text = toString value.toInt
  | .double value => text = Binary64.plain.write value
  | .boolean value => text = if value then "true" else "false"
  | .text content => text = content
  | .dateTime stamp => text = String.ofList (stamp.date.text ++ [' '] ++ stamp.time.text)
  | .null | .bytes _ => False

/-- An argument is converted to the whole number that it stands for. -/
theorem toInt64_eq_ok_iff {type : WireType} {argument : Argument} {number : Int64} :
    argument.toInt64 type = .ok number ↔ argument.IsWhole number.toInt := by
  cases argument with
  | int value =>
    change Except.ok value.toInt64 = .ok number ↔ number.toInt = value.toInt
    rw [Except.ok.injEq, ← Int64.toInt_inj, Int32.toInt_toInt64, eq_comm]
  | long value =>
    change Except.ok value = .ok number ↔ number.toInt = value.toInt
    rw [Except.ok.injEq, ← Int64.toInt_inj, eq_comm]
  | boolean value =>
    change Except.ok (if value then 1 else 0) = .ok number ↔ number.toInt = if value then 1 else 0
    rw [Except.ok.injEq, ← Int64.toInt_inj, eq_comm]
    cases value <;> rfl
  | dateTime stamp =>
    change Except.ok stamp.toMicros = .ok number ↔ number.toInt = stamp.nanos.tdiv 1000
    rw [Except.ok.injEq, ← Int64.toInt_inj, stamp.toInt_toMicros, eq_comm]
  | text content =>
    change _ ↔ Number.WritesSigned (Text.trim content).toList number.toInt
    rw [← Number.int64?_eq_some_iff]
    unfold toInt64
    dsimp only
    cases Number.int64? (Text.trim content) <;> simp
  | null | double _ | bytes _ => exact ⟨nofun, nofun⟩

/-- An argument is converted to the double-precision number that it stands for. -/
theorem toReal_eq_ok_iff {type : WireType} {argument : Argument} {number : Binary64} :
    argument.toReal type = .ok number ↔ argument.IsReal number := by
  cases argument with
  | int value | long value =>
    change Except.ok (Binary64.ofInt value.toInt) = .ok number ↔ number = .ofInt value.toInt
    rw [Except.ok.injEq, eq_comm]
  | double value =>
    change Except.ok value = .ok number ↔ number.bits = value.bits
    constructor
    · rintro ⟨⟩
      rfl
    · intro same
      have equal : value = number := congrArg Binary64.mk same.symm
      rw [equal]
  | text content =>
    change _ ↔ Number.binary64? (Text.trim content) = some number
    unfold toReal
    dsimp only
    cases Number.binary64? (Text.trim content) <;> simp
  | null | boolean _ | bytes _ | dateTime _ => exact ⟨nofun, nofun⟩

/-- An argument is converted to the text that it stands for. -/
theorem toText_eq_ok_iff {type : WireType} {argument : Argument} {text : String} :
    argument.toText type = .ok text ↔ argument.IsText text := by
  cases argument with
  | int _ | long _ | double _ | boolean _ | text _ | dateTime _ =>
    unfold toText IsText
    rw [Except.ok.injEq]
    exact eq_comm
  | null | bytes _ => exact ⟨nofun, nofun⟩

/-- Whether a value, or the refusal to read one, is what an argument stands for under a type. Under
the types of times an argument stands for a number of microseconds, which may lie outside the
supported years. No argument can be sent under any type that is not listed. -/
def StandsFor (argument : Argument) (type : WireType) (outcome : Except Error Value) : Prop :=
  match type with
  | .integer => ∃ number : Int32,
    argument.IsWhole number.toInt ∧ outcome = .ok (.int number)
  | .bigint => ∃ number : Int64,
    argument.IsWhole number.toInt ∧ outcome = .ok (.bigint number)
  | .real => ∃ number, argument.IsReal number ∧ outcome = .ok (.real number)
  | .date | .timestamp | .timestampLocal => ∃ micros : Int64,
    argument.IsWhole micros.toInt ∧ outcome = (DateTime.ofMicros micros).map .dateTime
  | .time => ∃ micros : Int64,
    argument.IsWhole micros.toInt ∧ outcome = (TimeOfDay.ofMicros micros).map .time
  | .char | .varchar | .text => ∃ text,
    argument.IsText text ∧ outcome = .ok (.text text)
  | .number | .decimal => ∃ text,
    argument.IsText text ∧ outcome = .ok (.number (Text.trim text))
  | .varbinary | .binary | .raw => ∃ content,
    argument = .bytes content ∧ outcome = .ok (.bytes content)
  | _ => False

variable {codec : Codec} {type : WireType} {argument : Argument} {bytes : Bytes}

/-- An argument that is not null is read again as what it stands for, if its text, in case it is
sent as one, has no characters that the character set does not keep. -/
theorem standsFor_decode_of_keeps (made : argument.encodeValue codec type = .ok bytes)
    (fits : ∀ data, bytes = codec.encodeField data → data.length < UInt32.size)
    (keeps : ∀ text, argument.IsText text → ∀ c ∈ text.toList, codec.charset.Keeps c) :
    ∃ payload, Carries codec.order type bytes payload ∧
      argument.StandsFor type (Value.decode codec type payload) := by
  cases type with
  | integer =>
    obtain ⟨value, converted, made⟩ := Action.except_bind_eq_ok.mp made
    obtain ⟨number, narrowed, made⟩ := Action.except_bind_eq_ok.mp made
    cases made
    have whole := toInt64_eq_ok_iff.mp converted
    rw [eq_of_narrow narrowed, Int32.toInt_toInt64] at whole
    exact ⟨_, ⟨rfl, codec.order.length_u32 _⟩, number, whole, Value.decode_integer codec number⟩
  | bigint =>
    obtain ⟨number, converted, made⟩ := Action.except_bind_eq_ok.mp made
    cases made
    have whole := toInt64_eq_ok_iff.mp converted
    exact ⟨_, ⟨rfl, codec.order.length_u64 _⟩, number, whole, Value.decode_bigint codec number⟩
  | real =>
    obtain ⟨number, converted, made⟩ := Action.except_bind_eq_ok.mp made
    cases made
    have real := toReal_eq_ok_iff.mp converted
    exact ⟨_, ⟨rfl, codec.order.length_u64 _⟩, number, real, Value.decode_real codec number⟩
  | date | timestamp | timestampLocal =>
    obtain ⟨micros, converted, made⟩ := Action.except_bind_eq_ok.mp made
    cases made
    have whole := toInt64_eq_ok_iff.mp converted
    exact ⟨_, ⟨rfl, codec.order.length_u64 _⟩, micros, whole,
      Value.decode_timestamp codec (by simp) micros⟩
  | time =>
    obtain ⟨micros, converted, made⟩ := Action.except_bind_eq_ok.mp made
    cases made
    have whole := toInt64_eq_ok_iff.mp converted
    exact ⟨_, ⟨rfl, codec.order.length_u64 _⟩, micros, whole, Value.decode_time codec micros⟩
  | char | varchar | text | number | decimal =>
    obtain ⟨text, converted, made⟩ := Action.except_bind_eq_ok.mp made
    cases made
    have written := toText_eq_ok_iff.mp converted
    have same : codec.decodeText (codec.charset.encode text) = text :=
      Charset.decode_encode_eq_iff.mpr (keeps text written)
    refine ⟨_, Finds.field codec.order (fits _ rfl), text, written, ?_⟩
    rw [Value.decode, same]
  | varbinary | binary | raw =>
    cases argument with
    | bytes content =>
      cases made
      exact ⟨_, Finds.field codec.order (fits _ rfl), content, rfl, rfl⟩
    | _ => cases made
  | _ => cases made

/-- An argument that is not null, sent in UTF-8. Of its bytes a payload is read that takes them all,
and of the payload the value that the argument stands for under its type: its whole number for
INTEGER, in four bytes and with 32 bits, and for BIGINT; its double-precision number for REAL, bit
for bit; the timestamp or the time of day of its whole number for the types of these; its text, for
NUMBER and DECIMAL without blanks at the ends; or its bytes. -/
theorem encoded_argument_decoded (order : ByteOrder) (type : WireType) (argument : Argument)
    (bytes : Bytes) (present : argument.isNull = false)
    (made : argument.encode ⟨order, .utf8⟩ type = .ok bytes)
    (fits : ∀ data, bytes = order.field data → data.length < UInt32.size) :
    ∃ payload, Carries order type bytes payload ∧
      argument.StandsFor type (Value.decode ⟨order, .utf8⟩ type payload) := by
  have value : argument.encodeValue ⟨order, .utf8⟩ type = .ok bytes := by
    rwa [encode, present, if_neg Bool.false_ne_true] at made
  exact standsFor_decode_of_keeps value fits fun _ _ _ _ => trivial

/-- A text with blanks around a number, sent as one. -/
theorem encoded_argument_decoded_blanks :
    let argument : Argument := .text " 12.50 "
    let bytes : Bytes := [0, 0, 0, 7, 32, 49, 50, 46, 53, 48, 32, 0]
    argument.isNull = false ∧
      argument.encode ⟨.big, .utf8⟩ .number = .ok bytes ∧
      (∀ data, bytes = ByteOrder.big.field data → data.length < UInt32.size) ∧
      ∃ payload, (Reader.field .big).Finds bytes payload ∧
        Value.decode ⟨.big, .utf8⟩ .number payload = .ok (.number "12.50") := by
  intro argument bytes
  have made : argument.encode ⟨.big, .utf8⟩ .number = .ok bytes := by decide +kernel
  have fits : ∀ data, bytes = ByteOrder.big.field data → data.length < UInt32.size := by
    intro data same
    have length : 12 = fieldSize data.length := by
      rw [← length_field .big, ← same]
      rfl
    rw [fieldSize] at length
    exact Nat.lt_of_le_of_lt (by omega : data.length ≤ 12) (by decide)
  have trimmed : Text.trim " 12.50 " = "12.50" := by decide +kernel
  obtain ⟨payload, found, text, written, decoded⟩ :=
    encoded_argument_decoded .big .number argument bytes rfl made fits
  subst written
  rw [trimmed] at decoded
  exact ⟨rfl, made, fits, payload, found, decoded⟩

end Argument
end SqlWire
