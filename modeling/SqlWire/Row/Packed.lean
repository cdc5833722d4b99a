import SqlWire.Bytes.Reader

/-!
# Packed rows

A row packs the lengths of its values into classes of two bits: absent, four bytes, eight bytes, or
a length of its own. The class region stands between a header and the values and grows in steps with
the number of columns. Values of their own length are padded so that the next value is aligned.
-/
namespace SqlWire

/-- The bytes of each column of a row, nothing for null. -/
abbrev RawRow := List (Option Bytes)

namespace PackedRow

/-- Bytes before the class region. -/
def headerSize : Nat := 5

/-- Bytes of the class region: three, and four more for every sixteen columns from the thirteenth
on. -/
def classLength (columns : Nat) : Nat :=
  if columns < 13 then 3 else 3 + (columns + 3) / 16 * 4

/-- The class of a column: four to a byte, the first in the low bits. -/
def classOf (classes : Bytes) (column : Nat) : UInt8 :=
  (classes.getD (column / 4) 0 >>> UInt8.ofNat (column % 4 * 2)) &&& 3

/-- One value of a class. -/
def value (order : ByteOrder) (kind : UInt8) : Reader (Option Bytes) :=
  if kind = 0 then pure none
  else if kind = 1 then some <$> Reader.take 4
  else if kind = 2 then some <$> Reader.take 8
  else do
    let length ← Reader.u16 order
    let bytes ← Reader.take length.toNat
    Reader.skip (padding (length.toNat + 2))
    pure (some bytes)

/-- The values of `count` columns, of which the first has the given index. -/
def values (order : ByteOrder) (classes : Bytes) (column : Nat) : Nat → Reader RawRow
  | 0 => pure []
  | count + 1 => do
    let first ← value order (classOf classes column)
    let others ← values order classes (column + 1) count
    pure (first :: others)

/-- A row of a number of columns. -/
def read (order : ByteOrder) (columns : Nat) : Reader RawRow := do
  Reader.skip headerSize
  let classes ← Reader.take (classLength columns)
  if classes.length * 4 < columns then
    Reader.fail (.protocol (.classRegion classes.length columns))
  else values order classes 0 columns

end PackedRow
end SqlWire
