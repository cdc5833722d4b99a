import SqlWire.Bytes.WriteBuffer
import SqlWire.Codec
import SqlWire.Proofs.Reader

/-!
# Fields written and read

The codec of a session and a buffer being written lay out the field of a byte string alike, and a
reader finds the byte string in it whatever follows. The reader passes over the filling without a
look at it, so it accepts bytes that nobody writes: it takes what is laid out as a field, with any
filling (`Reader.field_eq_ok_iff_laidOut`). Of all that is laid out as a field of a byte string, the
field that is written is the one filled up with zeros (`Field.LaidOut.field_eq_iff`). All this
together is `Codec.field_taken_as_written`.
-/
namespace SqlWire

/-- The bytes a reader took from the front of an input if it left `rest`. -/
def Reader.taken (input rest : Bytes) : Bytes := input.take (input.length - rest.length)

/-- What stands in front of the rest was taken. -/
@[simp] theorem Reader.taken_append (front rest : Bytes) : taken (front ++ rest) rest = front := by
  simp [taken]

namespace Field

/-- The bytes of a field behind its length and its data. -/
def filling (data field : Bytes) : Bytes := field.drop (4 + data.length)

/-- Whatever length is announced, the filling follows the data. -/
theorem filling_append (order : ByteOrder) (length : UInt32) (data fill : Bytes) :
    filling data (order.u32 length ++ data ++ fill) = fill := by
  have front : (order.u32 length ++ data).length = 4 + data.length := by simp
  rw [filling, ← front, List.drop_left]

/-- Bytes laid out as the field of some data, with any filling of the size that the data need. -/
structure LaidOut (order : ByteOrder) (data field : Bytes) : Prop where
  /-- The length of the data fits its word. -/
  fits : data.length < UInt32.size
  /-- The length comes first, then the data, then the filling. -/
  parts : field = order.u32 (UInt32.ofNat data.length) ++ data ++ filling data field
  /-- There are as many bytes as a field of the data has. -/
  size : field.length = fieldSize data.length

namespace LaidOut

variable {order : ByteOrder} {data field : Bytes}

/-- Length, data and as much filling as they need are laid out as a field. -/
theorem of_parts {fill : Bytes} (fits : data.length < UInt32.size)
    (filled : fill.length = padding data.length) :
    LaidOut order data (order.u32 (UInt32.ofNat data.length) ++ data ++ fill) where
  fits := fits
  parts := by rw [filling_append]
  size := by simp [filled, fieldSize, Nat.add_assoc]

/-- The filling is as long as the data need. -/
theorem length_filling (laid : LaidOut order data field) :
    (filling data field).length = padding data.length := by
  rw [filling, List.length_drop, laid.size, fieldSize]
  omega

/-- The field that is written is the one that is filled up with zeros. -/
theorem field_eq_iff (laid : LaidOut order data field) :
    order.field data = field ↔ ∀ byte ∈ filling data field, byte = 0 := by
  have apart : order.field data = field ↔ order.field data =
      order.u32 (UInt32.ofNat data.length) ++ data ++ filling data field := by rw [← laid.parts]
  rw [apart, ByteOrder.field, List.append_cancel_left_eq, eq_comm, List.eq_replicate_iff]
  exact and_iff_right laid.length_filling

end LaidOut
end Field

/-- A field is read exactly when what is taken for it is laid out as one. -/
theorem Reader.field_eq_ok_iff_laidOut {order : ByteOrder} {data input rest : Bytes} :
    Reader.field order input = .ok data rest ↔
      taken input rest ++ rest = input ∧ Field.LaidOut order data (taken input rest) := by
  rw [Reader.field_eq_ok]
  constructor
  · rintro ⟨fits, fill, filled, rfl⟩
    rw [taken_append]
    exact ⟨rfl, .of_parts fits filled⟩
  · rintro ⟨split, laid⟩
    refine ⟨laid.fits, Field.filling data (taken input rest), laid.length_filling, ?_⟩
    rw [← laid.parts, split]

/-- The field of a byte string in a session of either byte order. A buffer adds the same bytes that
the codec gives, whatever it held before. They are as many as announced, a multiple of four. If the
length of the byte string fits its word, a reader finds the byte string in them and leaves exactly
what follows. And wherever a reader finds a byte string, it took bytes laid out as its field; they
are the field that is written for it exactly when the filling that was passed over is zero. -/
theorem Codec.field_taken_as_written (codec : Codec) (data : Bytes) :
    (∀ content, (⟨codec.order, content⟩ : WriteBuffer).field data =
      ⟨codec.order, content ++ codec.encodeField data⟩) ∧
    (codec.encodeField data).length = fieldSize data.length ∧ 4 ∣ fieldSize data.length ∧
    (data.length < UInt32.size → ∀ suffix,
      Reader.field codec.order (codec.encodeField data ++ suffix) = .ok data suffix) ∧
    ∀ input rest, Reader.field codec.order input = .ok data rest →
      Reader.taken input rest ++ rest = input ∧
      Field.LaidOut codec.order data (Reader.taken input rest) ∧
      (codec.encodeField data = Reader.taken input rest ↔
        ∀ byte ∈ Field.filling data (Reader.taken input rest), byte = 0) := by
  refine ⟨?_, length_field codec.order data, Nat.dvd_of_mod_eq_zero (fieldSize_mod_four _),
    Reader.Finds.field codec.order, ?_⟩
  · intro content
    exact WriteBuffer.field_eq_append _ data
  · intro input rest read
    obtain ⟨split, laid⟩ := Reader.field_eq_ok_iff_laidOut.mp read
    exact ⟨split, laid, laid.field_eq_iff⟩

/-- Five bytes are filled up with three. In front of a filling that is not zero they are found as
well, but they are not written so. -/
theorem Codec.field_taken_as_written_five :
    let codec : Codec := ⟨.big, .gbk⟩
    let data : Bytes := [104, 101, 108, 108, 111]
    let spoiled : Bytes := [0, 0, 0, 5] ++ data ++ [0, 7, 0]
    data.length < UInt32.size ∧
      Reader.field codec.order (codec.encodeField data ++ [9]) = .ok data [9] ∧
      Reader.field codec.order (spoiled ++ [9]) = .ok data [9] ∧
      codec.encodeField data ≠ spoiled := by
  intro codec data spoiled
  have fits : data.length < UInt32.size := by decide
  have read : Reader.field codec.order (spoiled ++ [9]) = .ok data [9] :=
    Reader.field_eq_ok.mpr ⟨fits, [0, 7, 0], by decide, by decide⟩
  obtain ⟨_, _, _, found, written⟩ := Codec.field_taken_as_written codec data
  obtain ⟨_, _, zeros⟩ := written (spoiled ++ [9]) [9] read
  rw [Reader.taken_append] at zeros
  refine ⟨fits, found fits [9], read, ?_⟩
  intro same
  exact absurd (zeros.mp same 7 (by decide)) (by decide)

end SqlWire
