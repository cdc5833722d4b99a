/-!
# Types of values on the wire

Every value travels under a wire type, which fixes how its bytes are read. A statement declares an
output by a type of the query language, which maps to the wire type its value comes back under.
-/
namespace SqlWire

/-- How the bytes of a value are read. -/
inductive WireType where
  /-- No type was given. -/
  | unspecified
  /-- Whole numbers of 32 bits. -/
  | integer
  /-- Whole numbers of 64 bits. -/
  | bigint
  /-- Double-precision numbers. -/
  | real
  /-- Numbers as text. -/
  | number
  /-- Numbers as text, of a declared precision. -/
  | decimal
  /-- Timestamps of whole seconds. -/
  | date
  /-- Timestamps. -/
  | timestamp
  /-- Text of fixed length. -/
  | char
  /-- Text of limited length. -/
  | varchar
  /-- Text. -/
  | text
  /-- Bytes of fixed length. -/
  | binary
  /-- Bytes of limited length. -/
  | varbinary
  /-- Large text. -/
  | clob
  /-- Large bytes. -/
  | blob
  /-- A cursor of the server. -/
  | refCursor
  /-- Truth values. -/
  | boolean
  /-- Timestamps in the zone of the session. -/
  | timestampLocal
  /-- Months. -/
  | intervalYearMonth
  /-- Microseconds. -/
  | intervalDaySecond
  /-- Bytes. -/
  | raw
  /-- Times of day. -/
  | time
  /-- Timestamps with a zone. -/
  | timestampZoned
  deriving DecidableEq, Repr

namespace WireType

instance : Inhabited WireType := ⟨.unspecified⟩

/-- All wire types, in the order of their codes. -/
def all : List WireType :=
  [.unspecified, .integer, .bigint, .real, .number, .decimal, .date, .timestamp, .char, .varchar,
    .text, .binary, .varbinary, .clob, .blob, .refCursor, .boolean, .timestampLocal,
    .intervalYearMonth, .intervalDaySecond, .raw, .time, .timestampZoned]

/-- The code that stands for the type on the wire. -/
def code : WireType → UInt8
  | .unspecified => 0
  | .integer => 1
  | .bigint => 2
  | .real => 3
  | .number => 4
  | .decimal => 5
  | .date => 6
  | .timestamp => 7
  | .char => 8
  | .varchar => 9
  | .text => 10
  | .binary => 11
  | .varbinary => 12
  | .clob => 13
  | .blob => 14
  | .refCursor => 15
  | .boolean => 17
  | .timestampLocal => 19
  | .intervalYearMonth => 21
  | .intervalDaySecond => 22
  | .raw => 23
  | .time => 26
  | .timestampZoned => 32

/-- The type that a code stands for. -/
def ofCode? (code : UInt8) : Option WireType := all.find? (·.code == code)

/-- The name shown to users. -/
def name : WireType → String
  | .unspecified => "UNSPECIFIED"
  | .integer => "INTEGER"
  | .bigint => "BIGINT"
  | .real => "REAL"
  | .number => "NUMBER"
  | .decimal => "DECIMAL"
  | .date => "DATE"
  | .timestamp => "TIMESTAMP"
  | .char => "CHAR"
  | .varchar => "VARCHAR"
  | .text => "TEXT"
  | .binary => "BINARY"
  | .varbinary => "VARBINARY"
  | .clob => "CLOB"
  | .blob => "BLOB"
  | .refCursor => "REF CURSOR"
  | .boolean => "BOOLEAN"
  | .timestampLocal => "TIMESTAMP WITH LOCAL TIME ZONE"
  | .intervalYearMonth => "INTERVAL YEAR TO MONTH"
  | .intervalDaySecond => "INTERVAL DAY TO SECOND"
  | .raw => "RAW"
  | .time => "TIME"
  | .timestampZoned => "TIMESTAMP WITH TIME ZONE"

/-- Types declared with a precision and a scale. -/
def hasScale : WireType → Bool
  | .number | .decimal => true
  | _ => false

/-- Types whose values are timestamps; they are declared with a precision. -/
def isTemporal : WireType → Bool
  | .date | .timestamp | .timestampZoned | .timestampLocal => true
  | _ => false

/-- The code of a type is read as that type. -/
@[simp] theorem ofCode?_code (type : WireType) : ofCode? type.code = some type := by
  cases type <;> rfl

/-- Only the code of a type is read as that type. -/
theorem code_of_ofCode? {code : UInt8} {type : WireType} (h : ofCode? code = some type) :
    type.code = code := by
  simpa using List.find?_some h

end WireType

/-- Types of the query language under which an output is declared. -/
inductive SqlType where
  | bit
  | tinyInt
  | smallInt
  | integer
  | bigInt
  | real
  | float
  | double
  | numeric
  | decimal
  | char
  | varchar
  | longVarchar
  | clob
  | binary
  | varBinary
  | longVarBinary
  | blob
  | boolean
  | date
  | time
  | timestamp
  | timestampWithTimezone
  | array
  | refCursor
  | null
  | other
  deriving DecidableEq, Repr

/-- The wire type under which an output comes back. -/
def SqlType.wireType : SqlType → WireType
  | .real | .float | .double => .real
  | .numeric => .number
  | .decimal => .decimal
  | .varchar => .text
  | .clob | .longVarchar => .clob
  | .blob | .longVarBinary => .blob
  | .char => .char
  | .boolean => .boolean
  | .binary => .binary
  | .varBinary => .varbinary
  | .bit | .integer | .tinyInt | .smallInt => .integer
  | .bigInt => .bigint
  | .date => .date
  | .timestamp => .timestamp
  | .timestampWithTimezone => .timestampZoned
  | .refCursor => .refCursor
  | .other => .unspecified
  | .array | .null | .time => .varchar

end SqlWire
