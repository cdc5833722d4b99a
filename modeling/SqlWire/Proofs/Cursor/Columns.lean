import SqlWire.Proofs.Connection.Trips
import SqlWire.Proofs.Cursor.Received

/-!
# The columns of the rows that a cursor hands out

A cursor keeps its columns apart from the rows in its buffer and joins them when it hands a row out.
It takes the columns of a batch unless the batch describes none. So each row carries the columns of
the last batch, up to its own, that described any (`rows_carry_last_described_columns`). A row fits
them unless its own batch described none: such a row has no values, and the columns of an earlier
batch read null from it. So the rows of a query over a connection fit their columns or are empty
(`rows_of_query`).
-/
namespace SqlWire

namespace RowBatch

/-- The columns that are known after a batch: its own, or those known before it. -/
def known (batch : RowBatch) (before : Columns) : Columns :=
  if batch.columns.isEmpty then before else batch.columns

/-- After a batch as many columns are known as it describes exactly when it describes some or none
were known before it. -/
theorem length_known {batch : RowBatch} {count : Nat} (before : Columns)
    (described : batch.columns.length = count) :
    (batch.known before).length = count ↔ batch.columns ≠ [] ∨ before = [] := by
  subst described
  cases own : batch.columns with
  | nil => simp [known, own]
  | cons column more => simp [known, own]

/-- Behind nothing a batch makes known what it describes. -/
@[simp] theorem known_nil (batch : RowBatch) : batch.known [] = batch.columns := by
  unfold known
  split
  · rename_i none
    exact (List.isEmpty_iff.mp none).symm
  · rfl

end RowBatch

namespace Cursor

/-- The columns that are known after some batches. -/
def lastKnown (before : Columns) (batches : List RowBatch) : Columns :=
  batches.foldl (fun known batch => batch.known known) before

/-- The rows of some batches in order, each with the columns that are known after its batch. -/
def described (before : Columns) : List RowBatch → List (Columns × RawRow)
  | [] => []
  | batch :: rest =>
    batch.rows.map (Prod.mk (batch.known before)) ++ described (batch.known before) rest

@[simp] theorem lastKnown_nil (before : Columns) : lastKnown before [] = before := rfl

@[simp] theorem lastKnown_cons (before : Columns) (batch : RowBatch) (rest : List RowBatch) :
    lastKnown before (batch :: rest) = lastKnown (batch.known before) rest := rfl

@[simp] theorem lastKnown_append (before : Columns) (first second : List RowBatch) :
    lastKnown before (first ++ second) = lastKnown (lastKnown before first) second :=
  List.foldl_append

@[simp] theorem described_nil (before : Columns) : described before [] = [] := rfl

@[simp] theorem described_cons (before : Columns) (batch : RowBatch) (rest : List RowBatch) :
    described before (batch :: rest) =
      batch.rows.map (Prod.mk (batch.known before)) ++ described (batch.known before) rest := rfl

/-- The rows of batches in front of others, and then those of the others. -/
@[simp] theorem described_append (before : Columns) (first second : List RowBatch) :
    described before (first ++ second) =
      described before first ++ described (lastKnown before first) second := by
  induction first generalizing before with
  | nil => rfl
  | cons batch rest ih =>
    rw [List.cons_append, described_cons, ih, described_cons, List.append_assoc, lastKnown_cons]

/-- Every row belongs to a batch and has the columns that are known after it. -/
theorem exists_batch_of_mem_described {before columns : Columns} {raw : RawRow}
    {batches : List RowBatch} (member : (columns, raw) ∈ described before batches) :
    ∃ front batch back, batches = front ++ batch :: back ∧ raw ∈ batch.rows ∧
      columns = batch.known (lastKnown before front) := by
  induction batches generalizing before with
  | nil => cases member
  | cons batch rest ih =>
    rcases List.mem_append.mp member with own | later
    · obtain ⟨row, inside, same⟩ := List.mem_map.mp own
      cases same
      exact ⟨[], batch, rest, rfl, inside, rfl⟩
    · obtain ⟨front, other, back, rfl, inside, known⟩ := ih later
      exact ⟨batch :: front, other, back, rfl, inside, known⟩

/-- The rows in the buffer of a cursor with its columns. -/
def waiting (cursor : Cursor) : List (Columns × RawRow) :=
  cursor.buffer.map (Prod.mk cursor.columns)

namespace History

/-- The rows that were handed out, each with its columns. -/
def paired (rows : List Row) : List (Columns × RawRow) :=
  rows.map fun row => (row.columns, row.values)

end History

/-- A call for a row hands out rows with the columns that they arrived with: what it gives and what
it leaves in the buffer are what was in the buffer and what the new batches bring. -/
theorem Course.paired_append_waiting {cursor final : Cursor} {contacts : List Contact}
    {outcome : Except Interrupt (Option Row)} (course : Course cursor contacts outcome final) :
    History.paired (History.given outcome) ++ final.waiting =
        cursor.waiting ++ described cursor.columns (Contact.batches contacts) ∧
      final.columns = lastKnown cursor.columns (Contact.batches contacts) := by
  induction course with
  | handed buffered =>
    simp [History.paired, History.given, waiting, refresh, buffered]
  | drained drained =>
    simp [History.paired, History.given, waiting, drained.1]
  | refused stop wants =>
    simp [History.paired, History.given]
  | @refilled cursor after contacts outcome batch wants _ ih =>
    -- Nothing is buffered when a batch is taken in, so no row changes its columns.
    obtain ⟨rows, columns⟩ := ih
    have empty : cursor.waiting = [] := by rw [waiting, wants.1, List.map_nil]
    have taken : (cursor.absorb batch).waiting =
        batch.rows.map (Prod.mk (batch.known cursor.columns)) := by
      simp only [waiting, absorb, refresh, wants.1, List.nil_append]
      rfl
    have known : (cursor.absorb batch).columns = batch.known cursor.columns := rfl
    rw [known] at rows columns
    rw [Contact.batches_cons_fetched_ok, described_cons, lastKnown_cons, empty, List.nil_append]
    exact ⟨by rw [rows, taken], columns⟩

namespace History

variable {σ : Type} {source : Source σ} {opening : Opening} {history : History σ}

/-- The batches that arrived so far. -/
def arrived (opening : Opening) (history : History σ) : List RowBatch :=
  opening.batches ++ Contact.batches history.contacts

/-- What holds between calls: each row that was handed out or waits in the buffer has the columns
that were known after its batch, and the cursor has those that are known now. -/
structure Described (opening : Opening) (history : History σ) : Prop where
  /-- No row changes its columns. -/
  rows_eq : paired history.rows ++ history.cursor.waiting =
    described [] (arrived opening history)
  /-- The columns of the next row. -/
  columns_eq : history.cursor.columns = lastKnown [] (arrived opening history)

/-- A cursor begins with the columns of its first batch. -/
theorem described_ofOpening (opening : Opening) (store : σ) :
    (ofOpening opening store).Described opening := by
  cases opening with
  | ofBatch statement id mode batch fetchSize codec =>
    constructor <;>
      simp [ofOpening, Opening.cursor, arrived, Opening.batches, paired, waiting, ofBatch, refresh]
  | unfetched statement id mode fetchSize codec => exact ⟨rfl, rfl⟩

/-- A call for a row keeps rows and columns together. -/
theorem Described.next (together : history.Described opening) (source : Source σ) :
    (history.play source .next).Described opening := by
  obtain ⟨contacts, course, observed⟩ := history.exists_course source
  obtain ⟨rows, columns⟩ := course.paired_append_waiting
  have logged : arrived opening (history.play source .next) =
      arrived opening history ++ Contact.batches contacts := by
    rw [arrived, play, log_of_observed observed, Contact.batches_append, ← List.append_assoc]
    rfl
  rw [together.columns_eq] at rows columns
  constructor
  · calc
      paired (history.play source .next).rows ++ (history.play source .next).cursor.waiting =
          paired history.rows ++ (paired (given (Action.outcome (history.result source))) ++
            (Action.last (history.result source)).2.waiting) := by
        rw [← List.append_assoc]
        simp only [paired, ← List.map_append]
        rfl
      _ = paired history.rows ++ history.cursor.waiting ++
          described (lastKnown [] (arrived opening history)) (Contact.batches contacts) := by
        rw [rows, List.append_assoc]
      _ = described [] (arrived opening (history.play source .next)) := by
        rw [together.rows_eq, logged, described_append]
  · rw [logged, lastKnown_append]
    exact columns

/-- Another number of rows to fetch at a time changes neither rows nor columns. -/
theorem Described.setFetchSize (together : history.Described opening) (source : Source σ)
    (size : UInt32) : (history.play source (.setFetchSize size)).Described opening :=
  ⟨together.rows_eq, together.columns_eq⟩

/-- Calls keep rows and columns together. -/
theorem Described.run (together : history.Described opening) (source : Source σ)
    (calls : List Call) : (history.run source calls).Described opening := by
  apply run_of_play _ together
  intro history call together
  cases call with
  | next => exact together.next source
  | setFetchSize size => exact together.setFetchSize source size

/-- Each row that was handed out belongs to a batch that arrived and has the columns known after it.
Over batches that were read from bytes, it has as many values as its batch described columns. -/
theorem Described.exists_batch (together : history.Described opening)
    (read : ∀ batch ∈ arrived opening history, batch.Received) {row : Row}
    (member : row ∈ history.rows) :
    ∃ front batch back, arrived opening history = front ++ batch :: back ∧
      row.values ∈ batch.rows ∧ row.columns = batch.known (lastKnown [] front) ∧
      row.values.length = batch.columns.length := by
  have handed : (row.columns, row.values) ∈ paired history.rows :=
    List.mem_map.mpr ⟨row, member, rfl⟩
  have all := List.mem_append_left history.cursor.waiting handed
  rw [together.rows_eq] at all
  obtain ⟨front, batch, back, split, inside, columns⟩ := exists_batch_of_mem_described all
  have arrived : batch ∈ arrived opening history := by simp [split]
  exact ⟨front, batch, back, split, inside, columns,
    (read batch arrived).length_eq row.values inside⟩

/-- Over batches that were read from bytes, a row that was handed out fits its columns or has no
values. -/
theorem Described.fits_or_empty (together : history.Described opening)
    (read : ∀ batch ∈ arrived opening history, batch.Received) {row : Row}
    (member : row ∈ history.rows) : row.size = row.columns.length ∨ row.values = [] := by
  obtain ⟨front, batch, _, _, _, columns, width⟩ := together.exists_batch read member
  by_cases none : batch.columns = []
  · rw [none, List.length_nil] at width
    exact .inr (List.length_eq_zero_iff.mp width)
  · have fitting := (RowBatch.length_known (lastKnown [] front) width.symm).mpr (.inl none)
    rw [← columns] at fitting
    exact .inl fitting.symm

/-- Over a source that gives only batches that were read from bytes, and behind such an opening, no
others arrive. -/
theorem received_of_mem_arrived (received : source.Received) (first : opening.Received) (start : σ)
    (calls : List Call) :
    ∀ batch ∈ arrived opening ((ofOpening opening start).run source calls), batch.Received := by
  have begun : (ofOpening opening start).Received := by
    intro batch none
    cases none
  intro batch member
  rcases List.mem_append.mp member with own | fetched
  · exact first batch own
  · exact begun.run received calls batch fetched

end History

/-- The cursor of a query over a connection hands out no row that fits its columns in part. Whatever
the server sends and whatever is called, a row has a value for each of its columns or none at
all. -/
theorem rows_of_query {sql : String} {cursor : Cursor} {before after : Connection}
    (done : Connection.query sql before = .ok cursor after) (calls : List Call) :
    ∃ opening : Opening, opening.cursor = cursor ∧
      ∀ row ∈ ((History.ofOpening opening after).run Connection.source calls).rows,
        row.size = row.columns.length ∨ row.values = [] := by
  obtain ⟨opening, first, begins⟩ := Connection.exists_opening_of_query done
  refine ⟨opening, begins, ?_⟩
  intro row member
  have together := (History.described_ofOpening opening after).run Connection.source calls
  have read := History.received_of_mem_arrived Connection.received_source first after calls
  exact together.fits_or_empty read member

/-- The rows of a cursor after any calls, over batches that were read from bytes. Each row that was
handed out or waits in the buffer has the columns of the last batch, up to its own, that described
any. A row fits its columns exactly when its own batch described some or no batch before it did, and
then a value of it is null exactly when the server sent null. Any other row has no values, and under
the columns of an earlier batch all of it is null. -/
theorem rows_carry_last_described_columns {σ : Type} (source : Source σ)
    (received : source.Received) (opening : Opening) (first : opening.Received) (start : σ)
    (calls : List Call) :
    let history := (History.ofOpening opening start).run source calls
    let batches := opening.batches ++ Contact.batches history.contacts
    history.rows.map (fun row => (row.columns, row.values)) ++
        history.cursor.buffer.map (fun raw => (history.cursor.columns, raw)) =
      described [] batches ∧
    ∀ row ∈ history.rows, ∃ front batch back,
      batches = front ++ batch :: back ∧ row.values ∈ batch.rows ∧
      row.columns = batch.known (lastKnown [] front) ∧
      (row.size = row.columns.length ↔ batch.columns ≠ [] ∨ lastKnown [] front = []) ∧
      (row.size = row.columns.length → ∀ index < row.columns.length,
        (row.get index = .ok .null ↔ row.values[index]? = some none)) ∧
      (row.size ≠ row.columns.length → row.values = [] ∧
        ∀ index < row.columns.length, row.get index = .ok .null) := by
  intro history batches
  have together : history.Described opening :=
    (History.described_ofOpening opening start).run source calls
  have read : ∀ batch ∈ batches, batch.Received :=
    History.received_of_mem_arrived received first start calls
  refine ⟨together.rows_eq, ?_⟩
  intro row member
  obtain ⟨front, batch, back, split, inside, columns, width⟩ := together.exists_batch read member
  have fitting := RowBatch.length_known (lastKnown [] front) width.symm
  rw [← columns, eq_comm] at fitting
  refine ⟨front, batch, back, split, inside, columns, fitting,
    fun fits _ => Row.get_eq_null_of_fits fits, ?_⟩
  intro misfit
  have empty : row.values = [] := (together.fits_or_empty read member).resolve_left misfit
  exact ⟨empty, fun _ => Row.get_eq_null_of_empty empty⟩

/-- A batch of one column and one row, as it is sent. -/
def describedBatch : Bytes :=
  [0, 1, 0, 0, 0, 0, 0, 1, 65, 0, 0, 0, 1, 1, 0, 0, 0, 4, 0, 0] ++
    [0, 0, 0, 1, 0, 0, 0, 1, 0, 0, 0, 0, 0, 1, 0, 0, 0, 0, 0, 7]

/-- A batch of no columns and one row, as it is sent. -/
def undescribedBatch : Bytes := [0, 0, 0, 0, 0, 0, 0, 1, 0, 0, 0, 0, 0, 0, 0, 0, 0, 0, 0, 0]

/-- A connection to a server that is about to answer a query with the first of these batches, and
then to send the second. -/
def undescribed : Connection :=
  let opened : Bytes := [0, 0, 0, 5, 1, 0, 0, 0, 0, 0, 0, 0, 0, 0, 0, 8, 0, 0, 0, 0]
  Connection.facing
    [⟨⟨76, 20, 0, 0, 0, 0, 0, 1⟩, 0, opened ++ describedBatch, rfl⟩,
      ⟨⟨36, 8, 0, 0, 0, 0, 0, 2⟩, 0, undescribedBatch, rfl⟩]

/-- The cursor of that query. -/
def undescribedOpening : Opening :=
  .ofBatch 5 8 0 ⟨[⟨"A", .integer, 4, 0, 0, true⟩], [[some [0, 0, 0, 7]]], true⟩
    undescribed.params.fetchSize undescribed.codec

/-- A row of that query has fewer values than columns, and its column reads null although the server
sent no null for it. -/
theorem undescribed_row_reads_null :
    ∃ after, Connection.query "x" undescribed = .ok undescribedOpening.cursor after ∧
      ∃ row ∈ ((History.ofOpening undescribedOpening after).run Connection.source
          [.next, .next]).rows,
        row.size ≠ row.columns.length ∧ 0 < row.columns.length ∧ row.get 0 = .ok .null ∧
          row.values[0]? ≠ some none := by
  refine ⟨_, Action.eq_ok_of_outcome (by decide +kernel), ?_⟩
  have second : ∃ row ∈ ((History.ofOpening undescribedOpening
      (Action.last (Connection.query "x" undescribed))).run Connection.source [.next, .next]).rows,
        row.values = [] ∧ 0 < row.columns.length := by
    decide +kernel
  obtain ⟨row, member, empty, inside⟩ := second
  have short : row.size = 0 := by rw [Row.size, empty, List.length_nil]
  refine ⟨row, member, by omega, inside, Row.get_eq_null_of_empty empty inside, ?_⟩
  simp [empty]

/-- That row has the column of the first batch. -/
theorem rows_carry_last_described_columns_undescribed :
    let start := Action.last (Connection.query "x" undescribed)
    let history := (History.ofOpening undescribedOpening start).run Connection.source
      [.next, .next]
    let batches := undescribedOpening.batches ++ Contact.batches history.contacts
    Connection.source.Received ∧ undescribedOpening.Received ∧
      ∃ row ∈ history.rows, row.values = [] ∧ ∃ front batch back,
        batches = front ++ batch :: back ∧ row.columns = batch.known (lastKnown [] front) ∧
          row.columns ≠ [] ∧ row.size ≠ row.columns.length ∧ row.get 0 = .ok .null := by
  intro start history batches
  have first : undescribedOpening.Received := by
    intro batch member
    rw [List.mem_singleton.mp member]
    exact ⟨⟨.big, .utf8⟩, describedBatch, _, Action.eq_ok_of_outcome (by decide +kernel)⟩
  have second : ∃ row ∈ history.rows, row.values = [] ∧ row.columns ≠ [] := by decide +kernel
  obtain ⟨row, member, empty, known⟩ := second
  obtain ⟨front, batch, back, split, _, columns, fitting, _, null⟩ :=
    (rows_carry_last_described_columns Connection.source Connection.received_source
      undescribedOpening first start [.next, .next]).2 row member
  have inside : 0 < row.columns.length := List.length_pos_iff.mpr known
  have short : row.size = 0 := by rw [Row.size, empty, List.length_nil]
  have misfit : row.size ≠ row.columns.length := by omega
  exact ⟨Connection.received_source, first, row, member, empty, front, batch, back, split, columns,
    known, misfit, (null misfit).2 0 inside⟩

end Cursor
end SqlWire
