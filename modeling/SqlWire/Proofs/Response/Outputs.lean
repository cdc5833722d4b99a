import SqlWire.Proofs.Row.Packed
import SqlWire.Response.Execute

/-!
# Outputs of a call

The answer to a call is read in every character set, whatever admissible class each value has and
whatever fills the gaps (`SentCall.finds_outcome`). An output that refers to a cursor carries its
number in eight bytes or, where they hold it, in four. Of four bytes the top bit is taken for a
sign, so a number from half their range on comes out as another (`getCursor_of_word`).
-/
namespace SqlWire

open Reader (Finds)

/-- The bytes of a row: a header, a class region, and each value under its class. -/
def PackedRow.Sent (order : ByteOrder) (row : RawRow) (bytes : Bytes) : Prop :=
  ∃ header classes entries : Bytes, header.length = headerSize ∧
    classes.length = classLength row.length ∧ Entries order classes 0 row entries ∧
    bytes = header ++ (classes ++ entries)

/-- A row that is sent is read back. -/
theorem PackedRow.Sent.finds {order : ByteOrder} {row : RawRow} {bytes : Bytes}
    (sent : Sent order row bytes) : (read order row.length).Finds bytes row := by
  obtain ⟨header, classes, entries, five, region, values, rfl⟩ := sent
  exact read_finds five region values

/-- The description of an output as it may be sent. -/
structure SentField where
  /-- The bytes reserved for its name. -/
  name : Bytes
  /-- Precision and scale. -/
  width : Bytes
  /-- Directions. -/
  direction : UInt8
  /-- The type. -/
  type : WireType
  /-- A name has a fixed room. -/
  room : name.length = OutputField.nameSize
  /-- Precision and scale take a byte each. -/
  two : width.length = 2

namespace SentField

/-- The bytes of the description. -/
def bytes (field : SentField) : Bytes :=
  field.name ++ (field.width ++ ([field.direction] ++ [field.type.code]))

/-- The description that is read. -/
def received (field : SentField) (codec : Codec) : OutputField where
  name := codec.decodeText (field.name.takeWhile (· != 0))
  type := field.type
  precision :=
    if field.type.hasScale || field.type.isTemporal then field.width.getD 0 0 else 0
  scale := if field.type.hasScale then field.width.getD 1 0 else 0
  direction := field.direction

/-- A description is read. -/
theorem finds (field : SentField) (codec : Codec) :
    (OutputField.read codec).Finds field.bytes (field.received codec) :=
  (Finds.take field.room).bind ((Finds.take field.two).bind ((Finds.u8 field.direction).bind
    (Finds.wireType field.type).bind_pure))

end SentField

/-- The answer to a call as it may be sent: the statement, three bytes that mean nothing, the
descriptions of the outputs, and the row of their values. -/
structure SentCall (order : ByteOrder) where
  /-- The statement that the server holds. -/
  statement : UInt32
  /-- Bytes that mean nothing. -/
  reserved : Bytes
  /-- The descriptions of the outputs. -/
  fields : List SentField
  /-- The values of the outputs. -/
  values : RawRow
  /-- The bytes of the values. -/
  row : Bytes
  /-- Three bytes mean nothing. -/
  three : reserved.length = 3
  /-- The outputs can be counted. -/
  counted : fields.length < UInt32.size
  /-- Every output has a value. -/
  wide : values.length = fields.length
  /-- The values are those of the row. -/
  packed : PackedRow.Sent order values row

namespace SentCall

variable {order : ByteOrder}

/-- The bytes behind the statement. -/
def body (call : SentCall order) : Bytes :=
  [2] ++ (call.reserved ++ (order.u32 (UInt32.ofNat call.fields.length) ++
    (call.fields.flatMap SentField.bytes ++ call.row)))

/-- The bytes of the answer. -/
def bytes (call : SentCall order) : Bytes := order.u32 call.statement ++ call.body

/-- The outputs that a client gets that declared these ordinals. -/
def outputs (call : SentCall order) (codec : Codec) (ordinals : List Nat) : Outputs :=
  ⟨call.fields.map (SentField.received · codec), call.values, ordinals, codec, false⟩

/-- The answer to a call is read by a client that declared as many outputs. -/
theorem finds_outcome {codec : Codec} (call : SentCall codec.order) {ordinals : List Nat}
    (declared : call.fields.length = ordinals.length) :
    (Outcome.read codec ordinals).Finds call.body (.call (call.outputs codec ordinals)) := by
  have count : (UInt32.ofNat call.fields.length).toNat = call.fields.length :=
    UInt32.toNat_ofNat_of_lt' call.counted
  have expected : ¬ (UInt32.ofNat call.fields.length).toNat ≠ ordinals.length := by
    rw [count, declared]
    exact not_not_intro rfl
  have fields := Finds.replicate fun field (_ : field ∈ call.fields) => field.finds codec
  have values := call.packed.finds
  rw [call.wide] at values
  have outputs : (Outputs.read codec ordinals).Finds
      (codec.order.u32 (UInt32.ofNat call.fields.length) ++
        (call.fields.flatMap SentField.bytes ++ call.row)) (call.outputs codec ordinals) := by
    apply (Finds.u32 codec.order _).bind
    rw [if_neg expected, count]
    exact fields.bind values.bind_pure
  exact (Finds.u8 2).bind ((Finds.skip call.three).bind outputs.bind_pure)

end SentCall

/-- How the number of a cursor is sent: in eight bytes, or in four where they hold it. -/
inductive CursorWord (order : ByteOrder) (id : UInt64) : Bytes → Prop where
  /-- In eight bytes. -/
  | eight : CursorWord order id (order.u64 id)
  /-- In four bytes. -/
  | four : id.toNat < UInt32.size → CursorWord order id (order.u32 id.toUInt32)

/-- The number that comes of one that was sent in some bytes: of four the top bit is a sign. -/
def numberOf (id : UInt64) (word : Bytes) : UInt64 :=
  if word.length = 4 then id.toUInt32.toInt32.toInt64.toUInt64 else id

/-- Four bytes taken for a signed number stay the same up to half their range; beyond it, all
numbers that they do not hold are added. -/
theorem toNat_toInt64 (word : UInt32) :
    word.toInt32.toInt64.toUInt64.toNat =
      word.toNat + if 0x80000000 ≤ word.toNat then 0xFFFFFFFF00000000 else 0 := by
  change (word.toBitVec.signExtend 64).toNat = _
  rw [BitVec.toNat_signExtend, BitVec.toNat_setWidth_of_le (by decide), BitVec.msb_eq_decide]
  simp

/-- A number comes out as it was sent, unless four bytes held it with their top bit. -/
theorem toNat_numberOf {order : ByteOrder} {id : UInt64} {word : Bytes}
    (sent : CursorWord order id word) :
    (numberOf id word).toNat =
      id.toNat + if word.length = 4 ∧ 0x80000000 ≤ id.toNat then 0xFFFFFFFF00000000 else 0 := by
  cases sent with
  | eight => simp [numberOf]
  | four fits =>
    have held : id.toUInt32.toNat = id.toNat := by
      rw [UInt64.toNat_toUInt32]
      exact Nat.mod_eq_of_lt fits
    simp [numberOf, toNat_toInt64, held]

/-- A number comes out as it was sent exactly when it took eight bytes or less than half the range
of four. -/
theorem numberOf_eq_iff {order : ByteOrder} {id : UInt64} {word : Bytes}
    (sent : CursorWord order id word) :
    numberOf id word = id ↔ word.length = 8 ∨ id.toNat < 0x80000000 := by
  rw [← UInt64.toNat_inj, toNat_numberOf sent]
  cases sent with
  | eight => simp
  | four fits =>
    simp only [ByteOrder.length_u32, true_and, Nat.reduceEqDiff, false_or]
    split <;> omega

/-- The value of bytes that hold the number of a cursor. -/
theorem Value.decode_cursorWord {codec : Codec} {id : UInt64} {word : Bytes}
    (sent : CursorWord codec.order id word) :
    Value.decode codec .refCursor word = .ok (.cursor (numberOf id word)) := by
  cases sent with
  | eight =>
    have whole : wholeNumber codec .refCursor (codec.order.u64 id) = .ok id.toInt64 := by
      simp [wholeNumber, checkWidth, Codec.decodeInt64, bind, Except.bind]
    simp [decode, whole, numberOf, bind, Except.bind]
  | four fits =>
    have whole : wholeNumber codec .refCursor (codec.order.u32 id.toUInt32) =
        .ok id.toUInt32.toInt32.toInt64 := by
      simp [wholeNumber, Codec.decodeInt32]
    simp [decode, whole, numberOf, bind, Except.bind]

namespace Outputs

/-- Of ordinals that are told apart each stands for its own place. -/
theorem lastPlace?_of_nodup {ordinals : List Nat} (distinct : ordinals.Nodup)
    {column ordinal : Nat} (placed : ordinals[column]? = some ordinal) :
    lastPlace? (· == ordinal) ordinals = some column := by
  have member : (ordinal, column) ∈ ordinals.zipIdx.reverse := by
    rw [List.mem_reverse, List.mem_zipIdx_iff_getElem?]
    exact placed
  rw [lastPlace?]
  cases found : ordinals.zipIdx.reverse.find? fun entry => entry.1 == ordinal with
  | none => simpa using List.find?_eq_none.mp found _ member
  | some entry =>
    have same : entry.1 = ordinal := by simpa using List.find?_some found
    have other : ordinals[entry.2]? = some entry.1 := by
      rw [← List.mem_zipIdx_iff_getElem?, ← List.mem_reverse]
      exact List.mem_of_find?_eq_some found
    have inside : entry.2 < ordinals.length := (List.getElem?_eq_some_iff.mp other).1
    have place : entry.2 = column := by
      apply (List.getElem?_inj inside distinct).mp
      rw [other, same, placed]
    rw [Option.map_some, place]

variable {outputs : Outputs} {column ordinal : Nat}

/-- An output that refers to a cursor gives the number that comes of its bytes. -/
theorem getCursor_of_word {id : UInt64} {word : Bytes}
    (placed : outputs.columnOf ordinal = .ok column) (typed : outputs.typeAt column = .refCursor)
    (held : outputs.rawAt column = some word) (sent : CursorWord outputs.codec.order id word) :
    outputs.getCursor ordinal =
      .ok (some (numberOf id word)) { outputs with wasNull := false } := by
  have got : get ordinal outputs =
      .ok (.cursor (numberOf id word)) { outputs with wasNull := false } := by
    simp only [get, placed, typed, held, Value.ofRaw, Value.decode_cursorWord sent]
    rfl
  rw [getCursor, getAs, Action.bind_of_ok got]
  rfl

end Outputs
end SqlWire
