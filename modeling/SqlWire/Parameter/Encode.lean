import SqlWire.Value.Decode

/-!
# Sending an argument

An argument is sent under a wire type that is chosen apart from it, so it is first converted to what
the type sends: a whole number, a double-precision number or text. Texts stand for numbers, numbers
for text, timestamps for their microseconds; what does not convert is refused. Null sends nothing
under every type.
-/
namespace SqlWire.Argument

/-- The argument as a whole number. -/
def toInt64 (type : WireType) : Argument → Except Error Int64
  | .int value => .ok value.toInt64
  | .long value => .ok value
  | .boolean value => .ok (if value then 1 else 0)
  | .dateTime stamp => .ok stamp.toMicros
  | .text content =>
    match Number.int64? (Text.trim content) with
    | some value => .ok value
    | none => .error (.type (.invalidText content type))
  | other => .error (.type (.cannotBind other type))

/-- The argument as a double-precision number. -/
def toReal (type : WireType) : Argument → Except Error Binary64
  | .int value => .ok (.ofInt value.toInt)
  | .long value => .ok (.ofInt value.toInt)
  | .double value => .ok value
  | .text content =>
    match Number.binary64? (Text.trim content) with
    | some value => .ok value
    | none => .error (.type (.invalidText content type))
  | other => .error (.type (.cannotBind other type))

/-- The argument as text. -/
def toText (type : WireType) : Argument → Except Error String
  | .int value => .ok (toString value.toInt)
  | .long value => .ok (toString value.toInt)
  | .double value => .ok (Binary64.plain.write value)
  | .boolean value => .ok (Value.boolText value)
  | .text content => .ok content
  | .dateTime stamp => .ok stamp.text
  | other => .error (.type (.cannotBind other type))

/-- The bytes of an argument that is not null. -/
def encodeValue (codec : Codec) (type : WireType) (argument : Argument) : Except Error Bytes :=
  match type with
  | .integer => do
    let value ← argument.toInt64 type
    .ok (codec.encodeInt32 (← narrow type.name value))
  | .bigint | .time | .date | .timestamp | .timestampLocal => do
    .ok (codec.encodeInt64 (← argument.toInt64 type))
  | .real => do .ok (codec.encodeReal (← argument.toReal type))
  | .number | .decimal | .char | .varchar | .text => do
    .ok (codec.encodeText (← argument.toText type))
  | .varbinary | .binary | .raw =>
    match argument with
    | .bytes content => .ok (codec.encodeField content)
    | other => .error (.type (.cannotBind other type))
  | other => .error (.type (.notForInput other))

/-- The bytes of an argument. -/
def encode (codec : Codec) (type : WireType) (argument : Argument) : Except Error Bytes :=
  if argument.isNull then .ok [] else argument.encodeValue codec type

end SqlWire.Argument
