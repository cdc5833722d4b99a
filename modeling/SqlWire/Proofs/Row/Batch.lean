import SqlWire.Proofs.Reader
import SqlWire.Row.Basic

/-!
# Rows of a batch

Every row of a batch that was read from bytes has as many values as the batch describes columns
(`RowBatch.Received.length_eq`). When a row fits its columns, a value of it is null only if the
server sent null (`Row.get_eq_null_of_fits`).
-/
namespace SqlWire

namespace PackedRow

/-- Values that are read are as many as were asked for. -/
theorem length_of_values_eq_ok {order : ByteOrder} {classes : Bytes} {column count : Nat}
    {row : RawRow} {input rest : Bytes}
    (read : values order classes column count input = .ok row rest) : row.length = count := by
  induction count generalizing column row input with
  | zero =>
    obtain ⟨rfl, _⟩ := Action.pure_eq_ok.mp read
    rfl
  | succ count ih =>
    obtain ⟨first, _, _, read⟩ := Action.bind_eq_ok.mp read
    obtain ⟨others, _, tail, read⟩ := Action.bind_eq_ok.mp read
    obtain ⟨rfl, rfl⟩ := Action.pure_eq_ok.mp read
    rw [List.length_cons, ih tail]

/-- A row that is read has as many values as were asked for. -/
theorem length_of_read_eq_ok {order : ByteOrder} {columns : Nat} {row : RawRow}
    {input rest : Bytes} (done : read order columns input = .ok row rest) :
    row.length = columns := by
  obtain ⟨_, _, _, done⟩ := Action.bind_eq_ok.mp done
  obtain ⟨classes, _, _, done⟩ := Action.bind_eq_ok.mp done
  split at done
  · cases done
  · exact length_of_values_eq_ok done

end PackedRow

namespace RowBatch

/-- Whether a batch was read from bytes, whatever bytes these were. -/
def Received (batch : RowBatch) : Prop := ∃ codec input rest, read codec input = .ok batch rest

/-- Every row of a batch that was read has a value for each column that the batch describes. -/
theorem Received.length_eq {batch : RowBatch} (received : batch.Received) :
    ∀ row ∈ batch.rows, row.length = batch.columns.length := by
  obtain ⟨codec, input, rest, done⟩ := received
  obtain ⟨count, _, _, done⟩ := Action.bind_eq_ok.mp done
  obtain ⟨_, _, _, done⟩ := Action.bind_eq_ok.mp done
  obtain ⟨columns, _, described, done⟩ := Action.bind_eq_ok.mp done
  obtain ⟨rowCount, _, _, done⟩ := Action.bind_eq_ok.mp done
  obtain ⟨remain, _, _, done⟩ := Action.bind_eq_ok.mp done
  obtain ⟨rows, _, packed, done⟩ := Action.bind_eq_ok.mp done
  obtain ⟨rfl, _⟩ := Action.pure_eq_ok.mp done
  intro row member
  obtain ⟨_, _, unpacked⟩ := (Reader.of_replicate_eq_ok packed).2 row member
  rw [PackedRow.length_of_read_eq_ok unpacked, (Reader.of_replicate_eq_ok described).1]

end RowBatch

/-- The bytes of a value never stand for null. -/
theorem Value.decode_ne_null (codec : Codec) (type : WireType) (bytes : Bytes) :
    decode codec type bytes ≠ .ok .null := by
  intro decoded
  cases type <;> simp [decode, Action.except_bind_eq_ok, ofInteger] at decoded
  -- Only a whole number takes one of two forms, and neither is null.
  obtain ⟨value, _, form⟩ := decoded
  split at form <;> cases form

/-- A value is null exactly when it has no bytes. -/
theorem Value.ofRaw_eq_null {codec : Codec} {type : WireType} {raw : Option Bytes} :
    ofRaw codec type raw = .ok .null ↔ raw = none := by
  cases raw with
  | none => simp [ofRaw]
  | some bytes => simp [ofRaw, decode_ne_null]

namespace Row

variable {row : Row} {index : Nat}

/-- The value of a column is null exactly when the row has no bytes for it. -/
theorem get_eq_null (inside : index < row.columns.length) :
    row.get index = .ok .null ↔ row.raw? index = none := by
  unfold get
  rw [List.getElem?_eq_getElem inside]
  exact Value.ofRaw_eq_null

/-- The value of a column of a row that fits its columns is null exactly when the server sent null
for it. -/
theorem get_eq_null_of_fits (fits : row.size = row.columns.length)
    (inside : index < row.columns.length) :
    row.get index = .ok .null ↔ row.values[index]? = some none := by
  have below : index < row.values.length := by
    rw [← fits] at inside
    exact inside
  rw [get_eq_null inside, raw?, List.getElem?_eq_getElem below]
  simp

/-- The value of every column of a row without values is null. -/
theorem get_eq_null_of_empty (empty : row.values = []) (inside : index < row.columns.length) :
    row.get index = .ok .null := by
  rw [get_eq_null inside, raw?, empty]
  rfl

end Row
end SqlWire
