import SqlWire.Bytes.Field

/-!
# Buffers being written

A buffer grows at its end, and words written earlier can be set again, which a length that is known
only afterwards needs. What each operation adds is stated of the content, so nothing else of a
buffer need be known.
-/
namespace SqlWire

/-- Bytes written so far, in a fixed byte order. -/
structure WriteBuffer where
  /-- Byte order of the words. -/
  order : ByteOrder
  /-- The bytes. -/
  content : Bytes
  deriving DecidableEq

namespace WriteBuffer

/-- A buffer without bytes. -/
def empty (order : ByteOrder) : WriteBuffer := ⟨order, []⟩

/-- Number of bytes written. -/
def size (buffer : WriteBuffer) : Nat := buffer.content.length

/-- Whether nothing was written. -/
def isEmpty (buffer : WriteBuffer) : Bool := buffer.content.isEmpty

/-- Add bytes. -/
def append (buffer : WriteBuffer) (bytes : Bytes) : WriteBuffer :=
  { buffer with content := buffer.content ++ bytes }

/-- Add one byte. -/
def u8 (buffer : WriteBuffer) (byte : UInt8) : WriteBuffer := buffer.append [byte]

/-- Add a 16-bit word. -/
def u16 (buffer : WriteBuffer) (word : UInt16) : WriteBuffer :=
  buffer.append (buffer.order.u16 word)

/-- Add a 32-bit word. -/
def u32 (buffer : WriteBuffer) (word : UInt32) : WriteBuffer :=
  buffer.append (buffer.order.u32 word)

/-- Add a 64-bit word. -/
def u64 (buffer : WriteBuffer) (word : UInt64) : WriteBuffer :=
  buffer.append (buffer.order.u64 word)

/-- Add zeros. -/
def zeros (buffer : WriteBuffer) (count : Nat) : WriteBuffer :=
  buffer.append (List.replicate count 0)

/-- Add a padded field: length, bytes and zeros. -/
def field (buffer : WriteBuffer) (data : Bytes) : WriteBuffer :=
  ((buffer.u32 (UInt32.ofNat data.length)).append data).zeros (padding data.length)

/-- Set the four bytes at a position to a word, if the buffer has them. -/
def setU32? (buffer : WriteBuffer) (position : Nat) (word : UInt32) : Option WriteBuffer :=
  if position + 4 ≤ buffer.size then
    some { buffer with
      content := buffer.content.take position ++ buffer.order.u32 word ++
        buffer.content.drop (position + 4) }
  else none

/-- Adding bytes keeps the byte order. -/
@[simp] theorem order_append (buffer : WriteBuffer) (bytes : Bytes) :
    (buffer.append bytes).order = buffer.order := rfl

/-- Bytes are added at the end. -/
@[simp] theorem content_append (buffer : WriteBuffer) (bytes : Bytes) :
    (buffer.append bytes).content = buffer.content ++ bytes := rfl

/-- Bytes that are added one after the other are added at once. -/
@[simp] theorem append_append (buffer : WriteBuffer) (first second : Bytes) :
    (buffer.append first).append second = buffer.append (first ++ second) := by
  simp [append]

/-- Adding no bytes changes nothing. -/
@[simp] theorem append_nil (buffer : WriteBuffer) : buffer.append [] = buffer := by
  simp [append]

/-- Adding a field adds its bytes. -/
theorem field_eq_append (buffer : WriteBuffer) (data : Bytes) :
    buffer.field data = buffer.append (buffer.order.field data) := by
  simp [field, zeros, u32, ByteOrder.field]

/-- Adding a field keeps the byte order. -/
@[simp] theorem order_field (buffer : WriteBuffer) (data : Bytes) :
    (buffer.field data).order = buffer.order := rfl

/-- A field is added as its closed form. -/
@[simp] theorem content_field (buffer : WriteBuffer) (data : Bytes) :
    (buffer.field data).content = buffer.content ++ buffer.order.field data := by
  simp [field, zeros, u32, ByteOrder.field]

/-- Setting the first word replaces it. -/
theorem setU32?_zero (order : ByteOrder) (first word : UInt32) (rest : Bytes) :
    setU32? ⟨order, order.u32 first ++ rest⟩ 0 word = some ⟨order, order.u32 word ++ rest⟩ := by
  simp [setU32?, size]

end WriteBuffer
end SqlWire
