import SqlWire.Bytes.ByteOrder
import SqlWire.Calendar.DateTime
import SqlWire.Number.Binary64

/-!
# Arguments of a statement

The value a caller binds to a parameter, before a wire type is chosen for it.
-/
namespace SqlWire

/-- A value to send. -/
inductive Argument where
  /-- No value. -/
  | null
  /-- A whole number of 32 bits. -/
  | int (value : Int32)
  /-- A whole number of 64 bits. -/
  | long (value : Int64)
  /-- A double-precision number. -/
  | double (value : Binary64)
  /-- A truth value. -/
  | boolean (value : Bool)
  /-- Text. -/
  | text (text : String)
  /-- Bytes. -/
  | bytes (bytes : Bytes)
  /-- A timestamp. -/
  | dateTime (stamp : DateTime)
  deriving DecidableEq

namespace Argument

instance : Inhabited Argument := ⟨.null⟩

/-- Whether there is no value. -/
def isNull : Argument → Bool
  | .null => true
  | _ => false

/-- The kind of the argument, for messages about it. -/
def kind : Argument → String
  | .null => "null"
  | .int _ => "int"
  | .long _ => "long"
  | .double _ => "double"
  | .boolean _ => "bool"
  | .text _ => "text"
  | .bytes _ => "bytes"
  | .dateTime _ => "datetime"

end Argument
end SqlWire
