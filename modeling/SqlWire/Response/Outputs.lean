import SqlWire.Row.Batch
import SqlWire.Text.Uppercase
import SqlWire.Value.Decode

/-!
# Outputs of a call

A call answers with one row that holds its outputs, and with a description of each. The row is in
the order of the ordinals that were declared, so an ordinal stands for its place among them. An
output is also found by name, without regard to case; of several with one name the last is meant.
Asking for a value notes whether it was null, even if its conversion then fails.
-/
namespace SqlWire

/-- The description of an output. -/
structure OutputField where
  /-- The name of the parameter. -/
  name : String
  /-- The type of the value. -/
  type : WireType
  /-- Precision, for numbers and timestamps. -/
  precision : UInt8
  /-- Scale, for numbers. -/
  scale : UInt8
  /-- Directions as the server gives them. -/
  direction : UInt8
  deriving DecidableEq, Repr

namespace OutputField

/-- Bytes reserved for a name. -/
def nameSize : Nat := 68

/-- The description of an output. A name ends at the first zero byte. -/
def read (codec : Codec) : Reader OutputField := do
  let name ← Reader.take nameSize
  let width ← Reader.take 2
  let direction ← Reader.u8
  let type ← Reader.wireType
  pure
    { name := codec.decodeText (name.takeWhile (· != 0))
      type
      precision := if type.hasScale || type.isTemporal then width.getD 0 0 else 0
      scale := if type.hasScale then width.getD 1 0 else 0
      direction }

end OutputField

/-- The outputs of a call. -/
structure Outputs where
  /-- Description of each output. -/
  fields : List OutputField
  /-- The row of values. -/
  values : RawRow
  /-- The ordinal of each output. -/
  ordinals : List Nat
  /-- The codec of the session. -/
  codec : Codec
  /-- Whether the value asked for last was null. -/
  wasNull : Bool
  deriving DecidableEq

namespace Outputs

/-- The outputs for a list of declared ordinals. -/
def read (codec : Codec) (ordinals : List Nat) : Reader Outputs := do
  let count ← Reader.u32 codec.order
  if count.toNat ≠ ordinals.length then
    Reader.fail (.protocol (.outputCount ordinals.length count.toNat))
  else
    let fields ← Reader.replicate (OutputField.read codec) count.toNat
    let values ← PackedRow.read codec.order count.toNat
    pure ⟨fields, values, ordinals, codec, false⟩

/-- Number of outputs. -/
def size (outputs : Outputs) : Nat := outputs.fields.length

/-- Whether there are no outputs. -/
def isEmpty (outputs : Outputs) : Bool := outputs.fields.isEmpty

/-- The last place of an item that passes a test. -/
def lastPlace? {α : Type} (test : α → Bool) (items : List α) : Option Nat :=
  (items.zipIdx.reverse.find? fun entry => test entry.1).map Prod.snd

/-- The place of an ordinal in the row. -/
def columnOf (outputs : Outputs) (ordinal : Nat) : Except Error Nat :=
  match lastPlace? (· == ordinal) outputs.ordinals with
  | some column => .ok column
  | none => .error (.parameter (.notOutput ordinal))

/-- The ordinal of the last output of a name. -/
def ordinalOf (outputs : Outputs) (name : String) : Except Error Nat :=
  let named := (outputs.ordinals.zip outputs.fields).reverse.find? fun entry =>
    Text.upper entry.2.name == Text.upper name
  match named with
  | some entry => .ok entry.1
  | none => .error (.parameter (.noOutput name))

/-- The bytes at a place of the row. -/
def rawAt (outputs : Outputs) (column : Nat) : Option Bytes := (outputs.values[column]?).join

/-- The bytes of an output. -/
def raw (outputs : Outputs) (ordinal : Nat) : Except Error (Option Bytes) := do
  .ok (outputs.rawAt (← outputs.columnOf ordinal))

/-- The type of the value at a place of the row. -/
def typeAt (outputs : Outputs) (column : Nat) : WireType :=
  ((outputs.fields[column]?).map OutputField.type).getD .unspecified

/-- Asking for a value, which notes whether it was null. -/
abbrev Query := EStateM Error Outputs

/-- The value of an output. -/
def get (ordinal : Nat) : Query Value := fun outputs =>
  match outputs.columnOf ordinal with
  | .error error => .error error outputs
  | .ok column =>
    let raw := outputs.rawAt column
    let noted := { outputs with wasNull := raw.isNone }
    match Value.ofRaw outputs.codec (outputs.typeAt column) raw with
    | .ok value => .ok value noted
    | .error error => .error error noted

/-- The value of the last output of a name. -/
def getByName (name : String) : Query Value := fun outputs =>
  match outputs.ordinalOf name with
  | .ok ordinal => get ordinal outputs
  | .error error => .error error outputs

/-- A value converted: nothing for null, and an error when the conversion has no result. -/
def getAs {α : Type} (target : String) (convert : Value → Option α) (ordinal : Nat) :
    Query (Option α) := do
  let value ← get ordinal
  match convert value with
  | some result => pure (some result)
  | none => if value.isNull then pure none else throw (.type (.cannotConvert value target))

/-- An output as a whole number of 32 bits. -/
def getInt32 (ordinal : Nat) : Query (Option Int32) := do
  match ← getAs "i32" Value.toInt64? ordinal with
  | none => pure none
  | some value =>
    match narrow "i32" value with
    | .ok result => pure (some result)
    | .error error => throw error

/-- An output as a whole number of 64 bits. -/
def getInt64 : Nat → Query (Option Int64) := getAs "i64" Value.toInt64?

/-- An output as a double-precision number. -/
def getReal : Nat → Query (Option Binary64) := getAs "f64" Value.toReal?

/-- An output as a user sees it. -/
def getText (ordinal : Nat) : Query (Option String) := do
  let value ← get ordinal
  pure (if value.isNull then none else some value.display)

/-- An output as bytes. -/
def getBytes : Nat → Query (Option Bytes) := getAs "bytes" Value.asBytes?

/-- The number of a cursor that is an output. -/
def getCursor : Nat → Query (Option UInt64) := getAs "cursor" Value.asCursor?

end Outputs
end SqlWire
