import SqlWire.Codec
import SqlWire.Row.Column
import SqlWire.Row.Packed

/-!
# Batches of rows

Rows arrive in batches. A batch describes its columns, counts its rows and says whether more rows
remain at the server.
-/
namespace SqlWire

/-- The type of a code, refused when no type has it. -/
def WireType.ofCode (code : UInt8) : Except Error WireType :=
  match WireType.ofCode? code with
  | some type => .ok type
  | none => .error (.type (.unknownCode code))

/-- A wire type by its code. -/
def Reader.wireType : Reader WireType := do
  let code ← u8
  ofExcept (WireType.ofCode code)

/-- The description of a column. -/
def Column.read (codec : Codec) : Reader Column := do
  let name ← Reader.field codec.order
  let type ← Reader.wireType
  let nullable ← Reader.u8
  let precision ← Reader.u8
  let scale ← Reader.u8
  let size ← Reader.u16 codec.order
  Reader.skip 2
  pure ⟨codec.decodeText name, type, size, precision, scale, nullable != 0⟩

/-- A batch of rows. -/
structure RowBatch where
  /-- Columns described with the batch. -/
  columns : Columns
  /-- The rows. -/
  rows : List RawRow
  /-- Whether more rows remain at the server. -/
  hasRemain : Bool
  deriving DecidableEq

/-- A batch of rows. -/
def RowBatch.read (codec : Codec) : Reader RowBatch := do
  let count ← Reader.u16 codec.order
  Reader.skip 2
  let columns ← Reader.replicate (Column.read codec) count.toNat
  let rowCount ← Reader.u32 codec.order
  let remain ← Reader.u32 codec.order
  let rows ← Reader.replicate (PackedRow.read codec.order count.toNat) rowCount.toNat
  pure ⟨columns, rows, remain != 0⟩

end SqlWire
