import SqlWire.Codec
import SqlWire.Error

/-!
# Reading a value

The wire type of a value says how its bytes are read. Types of fixed width refuse any other length;
the whole-number types take four or eight bytes alike and keep the number. Text and bytes take any
length.
-/
namespace SqlWire

/-- The timestamp of a number of microseconds, refused outside the supported years. -/
def DateTime.ofMicros (micros : Int64) : Except Error DateTime :=
  match DateTime.ofMicros? micros with
  | some stamp => .ok stamp
  | none => .error (.type (.dateTimeRange micros))

/-- The time of day of a number of microseconds. -/
def TimeOfDay.ofMicros (micros : Int64) : Except Error TimeOfDay :=
  match TimeOfDay.ofMicros? micros.toInt with
  | some time => .ok time
  | none => .error (.type (.timeRange micros))

/-- Whether a whole number fits 32 bits. -/
def fitsInt32 (value : Int64) : Bool :=
  Int32.minValue.toInt ≤ value.toInt && value.toInt ≤ Int32.maxValue.toInt

/-- A whole number as one of 32 bits, refused when it does not fit. -/
def narrow (target : String) (value : Int64) : Except Error Int32 :=
  if fitsInt32 value then .ok value.toInt32 else .error (.type (.doesNotFit value target))

namespace Value

/-- The bytes, if they are as many as the type requires. -/
def checkWidth (type : WireType) (width : Nat) (bytes : Bytes) : Except Error Bytes :=
  if bytes.length = width then .ok bytes
  else .error (.protocol (.valueWidth type width bytes.length))

/-- A whole number of four or eight bytes. -/
def wholeNumber (codec : Codec) (type : WireType) (bytes : Bytes) : Except Error Int64 :=
  if bytes.length = 4 then .ok (codec.decodeInt32 bytes).toInt64
  else do
    let word ← checkWidth type 8 bytes
    .ok (codec.decodeInt64 word)

/-- A whole number as one of 32 bits where it fits. -/
def ofInteger (value : Int64) : Value :=
  if fitsInt32 value then .int value.toInt32 else .bigint value

/-- The value of bytes under a type. -/
def decode (codec : Codec) (type : WireType) (bytes : Bytes) : Except Error Value :=
  match type with
  | .integer => do .ok (ofInteger (← wholeNumber codec type bytes))
  | .bigint => do .ok (.bigint (← wholeNumber codec type bytes))
  | .refCursor => do .ok (.cursor (← wholeNumber codec type bytes).toUInt64)
  | .boolean => do .ok (.boolean ((← wholeNumber codec type bytes) != 0))
  | .real => do .ok (.real (codec.decodeReal (← checkWidth type 8 bytes)))
  | .number | .decimal => .ok (.number (Text.trim (codec.decodeText bytes)))
  | .char | .varchar | .text | .clob => .ok (.text (codec.decodeText bytes))
  | .binary | .varbinary | .raw | .blob | .unspecified => .ok (.bytes bytes)
  | .date | .timestamp | .timestampZoned | .timestampLocal => do
    let word ← checkWidth type 8 bytes
    .ok (.dateTime (← DateTime.ofMicros (codec.decodeInt64 word)))
  | .time => do
    let word ← checkWidth type 8 bytes
    .ok (.time (← TimeOfDay.ofMicros (codec.decodeInt64 word)))
  | .intervalYearMonth => do .ok (.months (codec.decodeInt32 (← checkWidth type 4 bytes)))
  | .intervalDaySecond => do .ok (.micros (codec.decodeInt64 (← checkWidth type 8 bytes)))

/-- The value of a column: null when the server sent nothing. -/
def ofRaw (codec : Codec) (type : WireType) : Option Bytes → Except Error Value
  | none => .ok .null
  | some content => decode codec type content

end Value
end SqlWire
