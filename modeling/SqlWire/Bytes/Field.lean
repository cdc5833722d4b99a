import SqlWire.Bytes.ByteOrder

/-!
# Padded fields

A byte string of any length travels as a field: its length as a 32-bit word, the bytes, and zeros up
to the next multiple of four.
-/
namespace SqlWire

/-- Bytes that fill a length up to a multiple of four. -/
def padding (length : Nat) : Nat := (4 - length % 4) % 4

/-- Bytes of the field of a byte string. -/
def fieldSize (length : Nat) : Nat := 4 + length + padding length

/-- The field of a byte string. A length of 2^32 or more is announced modulo that. -/
def ByteOrder.field (order : ByteOrder) (data : Bytes) : Bytes :=
  order.u32 (UInt32.ofNat data.length) ++ data ++ List.replicate (padding data.length) 0

/-- A field has the size that is announced for it. -/
theorem length_field (order : ByteOrder) (data : Bytes) :
    (order.field data).length = fieldSize data.length := by
  simp [ByteOrder.field, fieldSize, Nat.add_assoc]

/-- Fields keep the bytes after them aligned. -/
theorem fieldSize_mod_four (length : Nat) : fieldSize length % 4 = 0 := by
  simp only [fieldSize, padding]
  omega

end SqlWire
