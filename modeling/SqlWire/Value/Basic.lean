import SqlWire.Bytes.ByteOrder
import SqlWire.Calendar.DateTime
import SqlWire.Calendar.Interval
import SqlWire.Number.Reading
import SqlWire.Number.Shortest
import SqlWire.Text.Blank
import SqlWire.Text.Quoted
import SqlWire.Text.Utf8

/-!
# Values received

A value that came from the server, with the conversions a caller may ask for. A conversion gives
nothing when the value is of another kind or its text is not a number in range. `text` is what a
user sees; `detail` names the kind and quotes text, for messages about the value.
-/
namespace SqlWire

/-- A value received. -/
inductive Value where
  /-- No value. -/
  | null
  /-- A whole number of 32 bits. -/
  | int (value : Int32)
  /-- A whole number of 64 bits. -/
  | bigint (value : Int64)
  /-- A double-precision number. -/
  | real (value : Binary64)
  /-- A number as text. -/
  | number (text : String)
  /-- Text. -/
  | text (text : String)
  /-- Bytes. -/
  | bytes (bytes : Bytes)
  /-- A truth value. -/
  | boolean (value : Bool)
  /-- A timestamp. -/
  | dateTime (stamp : DateTime)
  /-- A time of day. -/
  | time (time : TimeOfDay)
  /-- An interval in months. -/
  | months (count : Int32)
  /-- An interval in microseconds. -/
  | micros (count : Int64)
  /-- A cursor of the server by its number. -/
  | cursor (id : UInt64)
  deriving DecidableEq

namespace Value

/-- Whether there is no value. -/
def isNull : Value → Bool
  | .null => true
  | _ => false

/-- The text of a value that is text. -/
def asText? : Value → Option String
  | .text content | .number content => some content
  | _ => none

/-- The value as a whole number. -/
def toInt64? : Value → Option Int64
  | .int value => some value.toInt64
  | .bigint value => some value
  | .boolean value => some (if value then 1 else 0)
  | .number content | .text content => Number.int64? (Text.trim content)
  | _ => none

/-- The value as a double-precision number. -/
def toReal? : Value → Option Binary64
  | .real value => some value
  | .int value => some (.ofInt value.toInt)
  | .bigint value => some (.ofInt value.toInt)
  | .number content | .text content => Number.binary64? (Text.trim content)
  | _ => none

/-- The value as a truth value; a number is true unless it is zero. -/
def toBool? : Value → Option Bool
  | .boolean value => some value
  | .int value => some (value != 0)
  | .bigint value => some (value != 0)
  | _ => none

/-- The timestamp of a value that is one. -/
def asDateTime? : Value → Option DateTime
  | .dateTime stamp => some stamp
  | _ => none

/-- The bytes of a value that is bytes or text. -/
def asBytes? : Value → Option Bytes
  | .bytes content => some content
  | .text content => some (Utf8.encode content)
  | _ => none

/-- The number of a cursor. -/
def asCursor? : Value → Option UInt64
  | .cursor id => some id
  | _ => none

/-- Two upper-case hexadecimal digits. -/
def hexByte (byte : UInt8) : List Char :=
  [Nat.digitChar (byte.toNat / 16), Nat.digitChar (byte.toNat % 16)].map Char.toUpper

/-- A truth value as a word. -/
def boolText (value : Bool) : String := if value then "true" else "false"

/-- What a user sees of the value. -/
def display : Value → String
  | .null => "NULL"
  | .int value => toString value.toInt
  | .bigint value => toString value.toInt
  | .real value => Binary64.plain.write value
  | .number content | .text content => content
  | .bytes content => String.ofList (content.flatMap hexByte)
  | .boolean value => boolText value
  | .dateTime stamp => stamp.text
  | .time moment => String.ofList moment.text
  | .months count => Interval.monthsText count
  | .micros count => Interval.microsText count
  | .cursor id => "<CURSOR " ++ toString id.toNat ++ ">"

/-- The kind of the value with its content, for messages about it. -/
def detail : Value → String
  | .null => "Null"
  | .int value => Text.tagged "Int" (toString value.toInt)
  | .bigint value => Text.tagged "BigInt" (toString value.toInt)
  | .real value => Text.tagged "Real" (Binary64.detailed.write value)
  | .number content => Text.tagged "Number" (Text.quote content)
  | .text content => Text.tagged "Text" (Text.quote content)
  | .bytes content =>
    let numbers := content.map fun byte => toString byte.toNat
    Text.tagged "Bytes" ("[" ++ ", ".intercalate numbers ++ "]")
  | .boolean value => Text.tagged "Bool" (boolText value)
  | .dateTime stamp => Text.tagged "DateTime" (stamp.textWith 'T')
  | .time moment => Text.tagged "Time" (String.ofList moment.text)
  | .months count => Text.tagged "IntervalYm" (toString count.toInt)
  | .micros count => Text.tagged "IntervalDs" (toString count.toInt)
  | .cursor id => Text.tagged "Cursor" (toString id.toNat)

end Value
end SqlWire
