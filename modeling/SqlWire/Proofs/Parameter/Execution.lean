import SqlWire.Proofs.Frame
import SqlWire.Proofs.Parameter.History
import SqlWire.Proofs.Reader

/-!
# Executions as the server reads them

The parameters of an execution travel in two rows: first what each of them is, then the bytes of
each. The bytes do not say where one value ends and the next begins; a server that goes by the
descriptions alone finds every value all the same (`execution_read_back`), because the bytes of a
parameter always are those of its argument under its type.
-/
namespace SqlWire

open Reader (Finds)

/-- What a server is told of a parameter. -/
structure Descriptor where
  /-- The type of the value. -/
  type : WireType
  /-- The directions as flags. -/
  flags : UInt8
  /-- Whether the value is null. -/
  isNull : Bool
  deriving DecidableEq

namespace Descriptor

/-- A descriptor in a request. -/
def read : Reader Descriptor := do
  let type ← Reader.wireType
  let flags ← Reader.u8
  let null ← Reader.u8
  Reader.skip 1
  pure ⟨type, flags, null != 0⟩

/-- A padded field with its length and what fills it up. -/
def wholeField (order : ByteOrder) : Reader Bytes := do
  let word ← Reader.take 4
  let length := (order.ofU32 word).toNat
  let data ← Reader.take (length + padding length)
  pure (word ++ data)

/-- The bytes of a value of which only the descriptor is known. -/
def value (order : ByteOrder) (descriptor : Descriptor) : Reader Bytes :=
  if descriptor.isNull then pure []
  else
    match descriptor.type with
    | .integer => Reader.take 4
    | .bigint | .real | .time | .date | .timestamp | .timestampLocal => Reader.take 8
    | _ => wholeField order

end Descriptor

/-- An execution as a server reads it. -/
structure ReceivedExecution where
  /-- The statement. -/
  statement : UInt32
  /-- The text of the statement. -/
  sql : Bytes
  /-- Rows to send with the first batch. -/
  fetchSize : UInt32
  /-- What the parameters are. -/
  descriptors : List Descriptor
  /-- The bytes of their values. -/
  values : List Bytes
  deriving DecidableEq

/-- Read the body of an execution. -/
def ReceivedExecution.read (order : ByteOrder) : Reader ReceivedExecution := do
  let statement ← Reader.u32 order
  let sql ← Reader.field order
  let fetchSize ← Reader.u32 order
  let count ← Reader.u16 order
  Reader.skip 2
  let descriptors ← Reader.replicate Descriptor.read count.toNat
  let values ← descriptors.mapM (Descriptor.value order)
  pure ⟨statement, sql, fetchSize, descriptors, values⟩

namespace Slot

/-- What a server is told of a parameter. -/
def descriptor (slot : Slot) : Descriptor :=
  ⟨slot.type, slot.direction.flags, slot.argument.isNull⟩

/-- Whether the length of the value fits its word, if it is sent with a length. -/
def Fits (codec : Codec) (slot : Slot) : Prop :=
  ∀ data, slot.encoded = codec.encodeField data → data.length < UInt32.size

/-- A value whose bytes are short enough fits in any case. -/
theorem fits_of_length_encoded {codec : Codec} {slot : Slot}
    (short : slot.encoded.length < UInt32.size) : slot.Fits codec := by
  intro data same
  rw [same, Codec.encodeField, length_field, fieldSize] at short
  omega

/-- A descriptor is read back. -/
theorem finds_descriptor (slot : Slot) :
    Descriptor.read.Finds (Request.descriptor slot) slot.descriptor := by
  have null : ((if slot.argument.isNull then 1 else 0 : UInt8) != 0) = slot.argument.isNull := by
    cases slot.argument.isNull <;> rfl
  have one : ([0] : Bytes).length = 1 := rfl
  have found : Descriptor.read.Finds (Request.descriptor slot)
      ⟨slot.type, slot.direction.flags, (if slot.argument.isNull then 1 else 0 : UInt8) != 0⟩ :=
    (Finds.wireType _).bind ((Finds.u8 _).bind ((Finds.u8 _).bind (Finds.skip one).bind_pure))
  rwa [null] at found

/-- A field is read back with its length and its filling. -/
theorem finds_wholeField (order : ByteOrder) {data : Bytes} (fits : data.length < UInt32.size) :
    (Descriptor.wholeField order).Finds (order.field data) (order.field data) := by
  have announced : (order.ofU32 (order.u32 (UInt32.ofNat data.length))).toNat = data.length := by
    rw [order.ofU32_u32, UInt32.toNat_ofNat_of_lt' fits]
  have filled : (data ++ List.replicate (padding data.length) 0).length =
      (order.ofU32 (order.u32 (UInt32.ofNat data.length))).toNat +
        padding (order.ofU32 (order.u32 (UInt32.ofNat data.length))).toNat := by
    rw [announced, List.length_append, List.length_replicate]
  have field : order.field data = order.u32 (UInt32.ofNat data.length) ++
      (data ++ List.replicate (padding data.length) 0) := by
    rw [ByteOrder.field, List.append_assoc]
  rw [field]
  exact (Finds.take (order.length_u32 _)).bind (Finds.take filled).bind_pure

/-- The bytes of an argument are found by its type alone: types of whole numbers, doubles and times
have bytes of one length, and all others a field. -/
theorem finds_encodeValue {codec : Codec} {type : WireType} {argument : Argument} {encoded : Bytes}
    (made : argument.encodeValue codec type = .ok encoded) (flags : UInt8)
    (fits : ∀ data, encoded = codec.encodeField data → data.length < UInt32.size) :
    (Descriptor.value codec.order ⟨type, flags, false⟩).Finds encoded encoded := by
  cases type with
  | integer =>
    obtain ⟨_, _, made⟩ := Action.except_bind_eq_ok.mp made
    obtain ⟨_, _, made⟩ := Action.except_bind_eq_ok.mp made
    cases made
    exact Finds.take (codec.order.length_u32 _)
  | bigint | time | date | timestamp | timestampLocal | real =>
    obtain ⟨_, _, made⟩ := Action.except_bind_eq_ok.mp made
    cases made
    exact Finds.take (codec.order.length_u64 _)
  | number | decimal | char | varchar | text =>
    obtain ⟨content, _, made⟩ := Action.except_bind_eq_ok.mp made
    cases made
    exact finds_wholeField codec.order (fits _ rfl)
  | varbinary | binary | raw =>
    cases argument with
    | bytes content =>
      cases made
      exact finds_wholeField codec.order (fits _ rfl)
    | _ => cases made
  | _ => cases made

/-- The bytes of a consistent parameter are found by its descriptor alone. -/
theorem Consistent.finds_value {codec : Codec} {slot : Slot} (consistent : slot.Consistent codec)
    (fits : slot.Fits codec) :
    (slot.descriptor.value codec.order).Finds slot.encoded slot.encoded := by
  have made := consistent.encode_eq
  unfold Argument.encode at made
  cases null : slot.argument.isNull with
  | true =>
    rw [if_pos null] at made
    have nothing : slot.encoded = [] := (Except.ok.inj made).symm
    rw [nothing, descriptor, null]
    exact Finds.pure []
  | false =>
    have present : ¬ slot.argument.isNull = true := by simp [null]
    rw [if_neg present] at made
    rw [descriptor, null]
    exact finds_encodeValue made slot.direction.flags fits

end Slot

/-- What a server reads of an execution. -/
def ReceivedExecution.of (statement : UInt32) (sql : Bytes) (fetchSize : UInt32)
    (slots : List Slot) : ReceivedExecution :=
  ⟨statement, sql, fetchSize, slots.map Slot.descriptor, slots.map Slot.encoded⟩

/-- The body of an execution with consistent parameters is read back. -/
theorem ReceivedExecution.finds_body {codec : Codec} {slots : List Slot}
    (counted : slots.length ≤ maxParameters)
    (consistent : ∀ slot ∈ slots, slot.Consistent codec) (fits : ∀ slot ∈ slots, slot.Fits codec)
    (statement : UInt32) {sql : Bytes} (long : sql.length < UInt32.size) (fetchSize : UInt32) :
    (read codec.order).Finds (Request.body codec.order (.execute statement sql fetchSize slots))
      (of statement sql fetchSize slots) := by
  have below : slots.length < UInt16.size := Nat.lt_succ_of_le counted
  have count : (UInt16.ofNat slots.length).toNat = slots.length := UInt16.toNat_ofNat_of_lt' below
  have descriptors : (Reader.replicate Descriptor.read (UInt16.ofNat slots.length).toNat).Finds
      (slots.flatMap Request.descriptor) (slots.map Slot.descriptor) := by
    rw [count]
    exact Finds.replicate fun slot _ => slot.finds_descriptor
  have values : Finds ((slots.map Slot.descriptor).mapM (Descriptor.value codec.order))
      (slots.flatMap Slot.encoded) (slots.map Slot.encoded) := by
    rw [List.mapM_map]
    exact Finds.mapM fun slot member => (consistent slot member).finds_value (fits slot member)
  simp only [Request.body, List.append_assoc]
  exact (Finds.u32 _ statement).bind ((Finds.field _ long).bind ((Finds.u32 _ fetchSize).bind
    ((Finds.u16 _ _).bind ((Finds.skip (codec.order.length_u16 0)).bind
      (descriptors.bind values.bind_pure)))))

/-- A list of parameters after any edits, and a request to execute a statement with it. When its
parameters can be counted, it is written in the byte order of the list, and a server that goes by
the descriptors alone reads the body back to its end. Otherwise it is refused as a whole. -/
theorem execution_read_back (count : Nat) (codec : Codec) (edits : List Edit) (statement : UInt32)
    (sql : Bytes) (fetchSize : UInt32) :
    let slots := ((ParameterList.ofCount count codec).edited edits).slots
    slots.length = count ∧
    (slots.length ≤ 65535 → sql.length < UInt32.size → (∀ slot ∈ slots, slot.Fits codec) →
      ∀ buffer : WriteBuffer, buffer.order = codec.order →
        ∃ body, Request.write buffer (.execute statement sql fetchSize slots) =
            .ok (buffer.append body) ∧
          ReceivedExecution.read codec.order body =
            .ok (.of statement sql fetchSize slots) []) ∧
    (65535 < slots.length → ∀ buffer : WriteBuffer,
      Request.write buffer (.execute statement sql fetchSize slots) =
        .error (.parameter (.tooMany slots.length))) := by
  intro slots
  have consistent := ParameterList.consistent_edited count codec edits
  refine ⟨consistent.length_eq, ?_, ?_⟩
  · intro counted long fits buffer order
    have found := ReceivedExecution.finds_body counted consistent.slots fits statement long fetchSize
    have read := found []
    rw [List.append_nil] at read
    have countable : Request.Fits (.execute statement sql fetchSize slots) := counted
    have written := Request.write_of_fits countable buffer
    rw [order] at written
    exact ⟨_, written, read⟩
  · intro many buffer
    exact if_pos many

/-- Four parameters after edits of which two fail: a text that was retyped from a number, a null, an
output, and an argument that was bound before the list was cleared. -/
theorem execution_read_back_mixed :
    let edits : List Edit :=
      [.bindValue 4 .bigint (.long 5), .clear, .bindValue 1 .integer (.int 7),
        .bindValue 2 .integer (.text "x"), .applyTypes [.varchar, .bigint], .bindNull 2 .blob,
        .bindOutput 3 .timestamp, .retype 1 .clob]
    let codec : Codec := ⟨.big, .utf8⟩
    let slots := ((ParameterList.ofCount 4 codec).edited edits).slots
    slots.length ≤ 65535 ∧ (∀ slot ∈ slots, slot.Fits codec) ∧
      ReceivedExecution.of 9 [65] 100 slots =
        ⟨9, [65], 100, [⟨.varchar, 64, false⟩, ⟨.blob, 64, true⟩, ⟨.timestamp, 128, true⟩,
          ⟨.unspecified, 64, true⟩], [[0, 0, 0, 1, 55, 0, 0, 0], [], [], []]⟩ ∧
      ∃ body, Request.write (.empty .big) (.execute 9 [65] 100 slots) =
          .ok ((WriteBuffer.empty .big).append body) ∧
        ReceivedExecution.read .big body = .ok (.of 9 [65] 100 slots) [] := by
  intro edits codec slots
  have counted : slots.length ≤ 65535 := by decide
  have short : ∀ slot ∈ slots, slot.encoded.length < UInt32.size := by decide
  have fits : ∀ slot ∈ slots, slot.Fits codec := fun slot member =>
    Slot.fits_of_length_encoded (short slot member)
  have sent := (execution_read_back 4 codec edits 9 [65] 100).2.1 counted (by decide) fits
  exact ⟨counted, fits, by decide, sent (.empty .big) rfl⟩

end SqlWire
