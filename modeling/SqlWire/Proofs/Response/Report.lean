import SqlWire.Proofs.Row.Packed
import SqlWire.Proofs.Text.Utf8
import SqlWire.Response.Execute

/-!
# Answers to statements as they are sent

What the server sends for an execution or a description is read back as what it means, and not a
byte of what follows is taken (`reports_read_back`). A count or a length can only be sent if it fits
its word; all else may be anything.
-/
namespace SqlWire

open Reader (Finds)

/-- Text that is written in UTF-8 is what a session in UTF-8 reads. -/
theorem Codec.decodeText_encode (order : ByteOrder) (text : String) :
    (⟨order, .utf8⟩ : Codec).decodeText (Utf8.encode text) = text := Utf8.decode_encode text

namespace Column

/-- The description of a column as the server sends it. -/
def bytes (order : ByteOrder) (column : Column) : Bytes :=
  order.field (Utf8.encode column.name) ++ ([column.type.code] ++
    ([if column.nullable then 1 else 0] ++ ([column.precision] ++ ([column.scale] ++
      (order.u16 column.size ++ order.u16 0)))))

/-- The description of a column is read back. -/
theorem finds_bytes (order : ByteOrder) {column : Column}
    (fits : (Utf8.encode column.name).length < UInt32.size) :
    (read ⟨order, .utf8⟩).Finds (bytes order column) column := by
  have nullable : ((if column.nullable then 1 else 0 : UInt8) != 0) = column.nullable := by
    cases column.nullable <;> rfl
  have found : (read ⟨order, .utf8⟩).Finds (bytes order column)
      ⟨(⟨order, .utf8⟩ : Codec).decodeText (Utf8.encode column.name), column.type, column.size,
        column.precision, column.scale, (if column.nullable then 1 else 0 : UInt8) != 0⟩ :=
    (Finds.field order fits).bind ((Finds.wireType _).bind ((Finds.u8 _).bind ((Finds.u8 _).bind
      ((Finds.u8 _).bind ((Finds.u16 order _).bind
        (Finds.skip (order.length_u16 0)).bind_pure)))))
  rwa [Codec.decodeText_encode, nullable] at found

end Column

namespace RowBatch

/-- A batch as the server sends it. -/
def bytes (order : ByteOrder) (batch : RowBatch) : Bytes :=
  order.u16 (UInt16.ofNat batch.columns.length) ++ (order.u16 0 ++
    (batch.columns.flatMap (Column.bytes order) ++
      (order.u32 (UInt32.ofNat batch.rows.length) ++
        (order.u32 (if batch.hasRemain then 1 else 0) ++
          batch.rows.flatMap (PackedRow.bytes order)))))

/-- Whether a batch can be sent: its counts and lengths fit their words, and every row has a value
for each column. -/
structure Fits (batch : RowBatch) : Prop where
  /-- The columns can be counted. -/
  columns : batch.columns.length < UInt16.size
  /-- The names of the columns have a length. -/
  names : ∀ column ∈ batch.columns, (Utf8.encode column.name).length < UInt32.size
  /-- The rows can be counted. -/
  rows : batch.rows.length < UInt32.size
  /-- Every row is as wide as the columns. -/
  width : ∀ row ∈ batch.rows, row.length = batch.columns.length
  /-- The values have a length. -/
  values : ∀ row ∈ batch.rows, PackedRow.Fits row

/-- A batch is read back. -/
theorem finds_bytes (order : ByteOrder) {batch : RowBatch} (fits : batch.Fits) :
    (read ⟨order, .utf8⟩).Finds (bytes order batch) batch := by
  have columnCount : (UInt16.ofNat batch.columns.length).toNat = batch.columns.length :=
    UInt16.toNat_ofNat_of_lt' fits.columns
  have rowCount : (UInt32.ofNat batch.rows.length).toNat = batch.rows.length :=
    UInt32.toNat_ofNat_of_lt' fits.rows
  have remain : ((if batch.hasRemain then 1 else 0 : UInt32) != 0) = batch.hasRemain := by
    cases batch.hasRemain <;> rfl
  have columns : (Reader.replicate (Column.read ⟨order, .utf8⟩)
      (UInt16.ofNat batch.columns.length).toNat).Finds
      (batch.columns.flatMap (Column.bytes order)) batch.columns := by
    have each := Finds.replicate fun column member =>
      Column.finds_bytes order (fits.names column member)
    rwa [List.map_id', ← columnCount] at each
  have rows : (Reader.replicate (PackedRow.read order (UInt16.ofNat batch.columns.length).toNat)
      (UInt32.ofNat batch.rows.length).toNat).Finds
      (batch.rows.flatMap (PackedRow.bytes order)) batch.rows := by
    rw [columnCount, rowCount]
    have each := Finds.replicate fun row member => by
      have found := PackedRow.finds_bytes order (fits.values row member)
      rwa [fits.width row member] at found
    rwa [List.map_id'] at each
  have found : (read ⟨order, .utf8⟩).Finds (bytes order batch)
      ⟨batch.columns, batch.rows, (if batch.hasRemain then 1 else 0 : UInt32) != 0⟩ :=
    (Finds.u16 order _).bind ((Finds.skip (order.length_u16 0)).bind (columns.bind
      ((Finds.u32 order _).bind ((Finds.u32 order _).bind rows.bind_pure))))
  rwa [remain] at found

end RowBatch

namespace OutputField

/-- The description of an output as the server sends it. -/
def bytes (field : OutputField) : Bytes :=
  (Utf8.encode field.name ++
    List.replicate (nameSize - (Utf8.encode field.name).length) 0) ++
    ([field.precision, field.scale] ++ ([field.direction] ++ [field.type.code]))

/-- What is kept of the description of an output: precision and scale of numbers, the precision of
timestamps, and neither of anything else. -/
def kept (field : OutputField) : OutputField :=
  match field.type with
  | .number | .decimal => field
  | .date | .timestamp | .timestampLocal | .timestampZoned => { field with scale := 0 }
  | _ => { field with precision := 0, scale := 0 }

/-- Whether the name of an output can be sent: it has room, and no zero byte that would end it. -/
structure Fits (field : OutputField) : Prop where
  /-- The name has room. -/
  room : (Utf8.encode field.name).length ≤ nameSize
  /-- No byte of the name ends it. -/
  zeros : 0 ∉ Utf8.encode field.name

/-- Bytes without a zero end where the zeros begin. -/
theorem takeWhile_append_replicate {bytes : Bytes} (zeros : 0 ∉ bytes) (count : Nat) :
    (bytes ++ List.replicate count 0).takeWhile (· != 0) = bytes := by
  apply takeWhile_append_of_closing zeros
  cases count with
  | zero => exact .inl rfl
  | succ count => exact .inr ⟨List.replicate count 0, List.replicate_succ⟩

/-- The description of an output is read back as what is kept of it. -/
theorem finds_bytes (order : ByteOrder) {field : OutputField} (fits : field.Fits) :
    (read ⟨order, .utf8⟩).Finds field.bytes field.kept := by
  have room := fits.room
  have whole : (Utf8.encode field.name ++
      List.replicate (nameSize - (Utf8.encode field.name).length) 0).length = nameSize := by
    rw [List.length_append, List.length_replicate]
    omega
  have two : [field.precision, field.scale].length = 2 := rfl
  have found : (read ⟨order, .utf8⟩).Finds field.bytes _ :=
    (Finds.take whole).bind ((Finds.take two).bind ((Finds.u8 field.direction).bind
      (Finds.wireType field.type).bind_pure))
  rw [takeWhile_append_replicate fits.zeros, Codec.decodeText_encode] at found
  obtain ⟨name, type, precision, scale, direction⟩ := field
  cases type <;> exact found

end OutputField

/-- What the server reports of an execution. -/
inductive Report where
  /-- Rows were changed. -/
  | update (affected : UInt32)
  /-- A cursor stands open, and its first batch of rows. -/
  | query (cursor : UInt64) (mode : UInt32) (batch : RowBatch)
  /-- A call ended with outputs. -/
  | call (fields : List OutputField) (values : RawRow)

namespace Report

/-- A report as the server sends it. -/
def bytes (order : ByteOrder) : Report → Bytes
  | .update affected => [0] ++ ([0, 0, 0] ++ order.u32 affected)
  | .query cursor mode batch =>
    [1] ++ ([0, 0, 0] ++ (order.u64 cursor ++ (order.u32 mode ++ batch.bytes order)))
  | .call fields values =>
    [2] ++ ([0, 0, 0] ++ (order.u32 (UInt32.ofNat fields.length) ++
      (fields.flatMap (OutputField.bytes) ++ PackedRow.bytes order values)))

/-- Whether a report can be sent to a client that declared these outputs. -/
def Fits (ordinals : List Nat) : Report → Prop
  | .update _ => True
  | .query _ _ batch => batch.Fits
  | .call fields values =>
    fields.length = ordinals.length ∧ fields.length < UInt32.size ∧
      (∀ field ∈ fields, field.Fits) ∧ values.length = fields.length ∧ PackedRow.Fits values

/-- What a report means to a client that declared these outputs. -/
def outcome (codec : Codec) (ordinals : List Nat) : Report → Outcome
  | .update affected => .update affected
  | .query cursor mode batch => .query cursor mode batch
  | .call fields values => .call ⟨fields.map OutputField.kept, values, ordinals, codec, false⟩

/-- The outputs of a call are read back. -/
theorem finds_outputs (order : ByteOrder) {ordinals : List Nat} {fields : List OutputField}
    {values : RawRow} (fits : (Report.call fields values).Fits ordinals) :
    (Outputs.read ⟨order, .utf8⟩ ordinals).Finds
      (order.u32 (UInt32.ofNat fields.length) ++
        (fields.flatMap (OutputField.bytes) ++ PackedRow.bytes order values))
      ⟨fields.map OutputField.kept, values, ordinals, ⟨order, .utf8⟩, false⟩ := by
  obtain ⟨declared, counted, described, wide, lengths⟩ := fits
  have count : (UInt32.ofNat fields.length).toNat = fields.length :=
    UInt32.toNat_ofNat_of_lt' counted
  have expected : ¬ (UInt32.ofNat fields.length).toNat ≠ ordinals.length := by
    rw [count, declared]
    exact not_not_intro rfl
  have first := Finds.replicate fun field member =>
    OutputField.finds_bytes order (described field member)
  have second := PackedRow.finds_bytes order lengths
  rw [wide] at second
  apply (Finds.u32 order _).bind
  rw [if_neg expected, count]
  exact first.bind second.bind_pure

/-- A report is read back. -/
theorem finds_bytes (order : ByteOrder) {ordinals : List Nat} {report : Report}
    (fits : report.Fits ordinals) :
    (Outcome.read ⟨order, .utf8⟩ ordinals).Finds (report.bytes order)
      (report.outcome ⟨order, .utf8⟩ ordinals) := by
  have three : ([0, 0, 0] : Bytes).length = 3 := rfl
  cases report with
  | update affected =>
    exact (Finds.u8 0).bind ((Finds.skip three).bind (Finds.u32 order affected).bind_pure)
  | query cursor mode batch =>
    exact (Finds.u8 1).bind ((Finds.skip three).bind ((Finds.u64 order cursor).bind
      ((Finds.u32 order mode).bind (RowBatch.finds_bytes order fits).bind_pure)))
  | call fields values =>
    exact (Finds.u8 2).bind ((Finds.skip three).bind (finds_outputs order fits).bind_pure)

end Report

/-- The answer to a prepare request as the server sends it. -/
def DescribeResponse.bytes (order : ByteOrder) (described : DescribeResponse) : Bytes :=
  order.u32 described.statement ++ (order.u16 (UInt16.ofNat described.types.length) ++
    (order.u16 0 ++ (described.types.flatMap (fun type => [type.code]) ++
      PackedRow.zerosBehind described.types.length)))

/-- The answer to a prepare request is read back. -/
theorem DescribeResponse.finds_bytes (order : ByteOrder) {described : DescribeResponse}
    (counted : described.types.length < UInt16.size) :
    (read order).Finds (described.bytes order) described := by
  have count : (UInt16.ofNat described.types.length).toNat = described.types.length :=
    UInt16.toNat_ofNat_of_lt' counted
  have types := Finds.replicate fun type (_ : type ∈ described.types) => Finds.wireType type
  have filled : (PackedRow.zerosBehind described.types.length).length =
      padding (UInt16.ofNat described.types.length).toNat := by
    rw [count]
    exact PackedRow.length_zerosBehind _
  rw [List.map_id', ← count] at types
  exact (Finds.u32 order _).bind ((Finds.u16 order _).bind ((Finds.skip (order.length_u16 0)).bind
    (types.bind (Finds.skip filled).bind_pure)))

/-- What the server sends, in either byte order and in front of any bytes. A report of an execution
is read back as what it means to a client that declared these outputs, and a description of
parameters as itself; the bytes behind it are left. -/
theorem reports_read_back (order : ByteOrder) (ordinals : List Nat) (statement : UInt32)
    (suffix : Bytes) :
    (∀ report : Report, report.Fits ordinals →
      ExecuteResponse.read ⟨order, .utf8⟩ ordinals
          (order.u32 statement ++ report.bytes order ++ suffix) =
        .ok ⟨statement, report.outcome ⟨order, .utf8⟩ ordinals⟩ suffix) ∧
    ∀ types : List WireType, types.length ≤ 65535 →
      DescribeResponse.read order (DescribeResponse.bytes order ⟨statement, types⟩ ++ suffix) =
        .ok ⟨statement, types⟩ suffix := by
  constructor
  · intro report fits
    have found : (ExecuteResponse.read ⟨order, .utf8⟩ ordinals).Finds
        (order.u32 statement ++ report.bytes order)
        ⟨statement, report.outcome ⟨order, .utf8⟩ ordinals⟩ :=
      (Finds.u32 order statement).bind (Report.finds_bytes order fits).bind_pure
    exact found suffix
  · intro types counted
    have below : types.length < UInt16.size := Nat.lt_succ_of_le counted
    exact DescribeResponse.finds_bytes order below suffix

/-- Two rows with a null and values of three, four and eight bytes, a call with a number, a timestamp
and a text whose name takes all the room there is, and a description of three parameters, each with
the bytes in which it is sent. Three bytes behind their length are followed by three zeros, one byte
by one and none by two, the name of seven bytes by one, and the three types by one. -/
theorem reports_read_back_mixed :
    let batch : RowBatch :=
      ⟨[⟨"ID", .integer, 4, 10, 0, false⟩, ⟨"Größe", .varchar, 40, 0, 0, true⟩],
        [[some [1, 0, 0, 0], none], [some [1, 2, 3, 4, 5, 6, 7, 8], some [65, 66, 67]]], true⟩
    let query := Report.query 7 0 batch
    let fields : List OutputField :=
      [⟨"N", .number, 10, 2, 2⟩, ⟨"T", .timestamp, 6, 3, 2⟩,
        ⟨String.ofList (List.replicate 68 'x'), .varchar, 9, 9, 2⟩]
    let call := Report.call fields [some [49], none, some []]
    let described : DescribeResponse := ⟨5, [.integer, .clob, .time]⟩
    query.bytes .little =
      [1, 0, 0, 0] ++ [7, 0, 0, 0, 0, 0, 0, 0] ++ [0, 0, 0, 0] ++ [2, 0, 0, 0] ++
        [2, 0, 0, 0, 73, 68, 0, 0] ++ [1, 0, 10, 0, 4, 0, 0, 0] ++
        [7, 0, 0, 0, 71, 114, 195, 182, 195, 159, 101, 0] ++ [9, 1, 0, 0, 40, 0, 0, 0] ++
        [2, 0, 0, 0] ++ [1, 0, 0, 0] ++ [0, 0, 2, 0, 0] ++ [1, 0, 0] ++ [1, 0, 0, 0] ++
        [0, 0, 2, 0, 0] ++ [14, 0, 0] ++ [1, 2, 3, 4, 5, 6, 7, 8] ++ [3, 0, 65, 66, 67, 0, 0, 0] ∧
      call.bytes .big =
        [2, 0, 0, 0] ++ [0, 0, 0, 3] ++ [78] ++ List.replicate 67 0 ++ [10, 2, 2, 4] ++
          [84] ++ List.replicate 67 0 ++ [6, 3, 2, 7] ++ List.replicate 68 120 ++ [9, 9, 2, 9] ++
          [0, 0, 0, 3, 0] ++ [51, 0, 0] ++ [0, 1, 49, 0] ++ [0, 0, 0, 0] ∧
      described.bytes .big = [0, 0, 0, 5] ++ [0, 3, 0, 0] ++ [1, 13, 26, 0] ∧
      query.Fits [] ∧ call.Fits [2, 3, 5] ∧
      ExecuteResponse.read ⟨.little, .utf8⟩ [] (ByteOrder.little.u32 5 ++ query.bytes .little ++ [9]) =
        .ok ⟨5, .query 7 0 batch⟩ [9] ∧
      ExecuteResponse.read ⟨.big, .utf8⟩ [2, 3, 5] (ByteOrder.big.u32 5 ++ call.bytes .big ++ [9]) =
        .ok ⟨5, .call ⟨[⟨"N", .number, 10, 2, 2⟩, ⟨"T", .timestamp, 6, 0, 2⟩,
          ⟨String.ofList (List.replicate 68 'x'), .varchar, 0, 0, 2⟩], [some [49], none, some []],
          [2, 3, 5], ⟨.big, .utf8⟩, false⟩⟩ [9] ∧
      DescribeResponse.read .big (described.bytes .big ++ [9]) = .ok described [9] := by
  intro batch query fields call described
  have asked : query.Fits [] :=
    { columns := by decide
      names := by decide
      rows := by decide
      width := by decide
      values := by
        unfold PackedRow.Fits
        decide }
  have called : call.Fits [2, 3, 5] := by
    refine ⟨rfl, by decide, ?_, rfl, ?_⟩
    · have number : OutputField.Fits ⟨"N", .number, 10, 2, 2⟩ := ⟨by decide, by decide⟩
      have moment : OutputField.Fits ⟨"T", .timestamp, 6, 3, 2⟩ := ⟨by decide, by decide⟩
      have long : OutputField.Fits
          ⟨String.ofList (List.replicate 68 'x'), .varchar, 9, 9, 2⟩ := ⟨by decide, by decide⟩
      simp only [fields, List.forall_mem_cons]
      exact ⟨number, moment, long, nofun⟩
    · unfold PackedRow.Fits
      decide
  exact ⟨by decide +kernel, by decide +kernel, by decide, asked, called,
    (reports_read_back .little [] 5 [9]).1 query asked,
    (reports_read_back .big [2, 3, 5] 5 [9]).1 call called,
    (reports_read_back .big [] 5 [9]).2 _ (by decide)⟩

end SqlWire
