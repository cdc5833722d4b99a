import SqlWire.Row.Column
import SqlWire.Row.Packed
import SqlWire.Value.Decode

/-!
# Rows

A row keeps the bytes of its values with the columns that describe them, and decodes a value when it
is asked for. A column for which no bytes came is null.
-/
namespace SqlWire

/-- One row of a result. -/
structure Row where
  /-- The bytes of the values. -/
  values : RawRow
  /-- The columns of the result. -/
  columns : Columns
  /-- The codec of the session. -/
  codec : Codec
  deriving DecidableEq

namespace Row

/-- Number of values. -/
def size (row : Row) : Nat := row.values.length

/-- Whether there are no values. -/
def isEmpty (row : Row) : Bool := row.values.isEmpty

/-- The bytes of a value, if there are any. -/
def raw? (row : Row) (index : Nat) : Option Bytes := (row.values[index]?).join

/-- Whether a value is null. -/
def isNull (row : Row) (index : Nat) : Bool := (row.raw? index).isNone

/-- The value of a column. -/
def get (row : Row) (index : Nat) : Except Error Value :=
  match row.columns[index]? with
  | none => .error (.parameter (.columnRange index row.columns.length))
  | some column => Value.ofRaw row.codec column.type (row.raw? index)

/-- The value of the first column of a name. -/
def getByName (row : Row) (name : String) : Except Error Value :=
  match row.columns.find? name with
  | none => .error (.parameter (.noColumn name))
  | some index => row.get index

/-- The values of all columns. -/
def getAll (row : Row) : Except Error (List Value) :=
  (List.range row.columns.length).mapM row.get

end Row
end SqlWire
