import SqlWire.Action
import SqlWire.Row.Basic
import SqlWire.Row.Batch
import SqlWire.Transport

/-!
# Cursors

A cursor hands out the rows of a result one by one. It buffers the rows of the batches it received
and asks its source for another batch when the buffer is empty and the last batch said that rows
remain. A fetch that fails leaves the cursor as it was. A cursor over the rows of a statement owns
that statement: closing the cursor frees it, and a cursor given up without being closed leaves it to
be freed later. A stream of rows holds its cursor until it ends, and gives it up then.
-/
namespace SqlWire

/-- A request for more rows. -/
structure FetchRequest where
  /-- The statement. -/
  statement : UInt32
  /-- The cursor of the server. -/
  cursor : UInt64
  /-- How the cursor came about. -/
  mode : UInt32
  /-- Rows to send at most. -/
  fetchSize : UInt32
  deriving DecidableEq, Repr

/-- Where batches come from and statements go to. Every successful fetch uses something up, so
fetching again and again comes to an end. -/
structure Source (σ : Type) where
  /-- Fetch a batch. -/
  fetch : FetchRequest → EStateM Interrupt σ RowBatch
  /-- Free a statement. -/
  release : UInt32 → EStateM Interrupt σ Unit
  /-- Note a statement to be freed later. -/
  releaseLater : UInt32 → σ → σ
  /-- What fetches use up. -/
  budget : σ → Nat
  /-- A successful fetch uses something up. -/
  budget_lt : ∀ {request : FetchRequest} {batch : RowBatch} {before after : σ},
    fetch request before = .ok batch after → budget after < budget before

/-- What a cursor has to give. -/
inductive CursorState where
  /-- Nothing is buffered and more rows are to be fetched. -/
  | unfetched
  /-- Rows are buffered. -/
  | hasBufferedRows
  /-- There are no more rows. -/
  | exhausted
  deriving DecidableEq, Repr

/-- The word for a state. -/
def CursorState.name : CursorState → String
  | .unfetched => "Unfetched"
  | .hasBufferedRows => "HasBufferedRows"
  | .exhausted => "Exhausted"

/-- A cursor over rows. -/
structure Cursor where
  /-- The statement. -/
  statement : UInt32
  /-- The cursor of the server. -/
  id : UInt64
  /-- How the cursor came about. -/
  mode : UInt32
  /-- Columns of the rows. -/
  columns : Columns
  /-- Rows received and not handed out. -/
  buffer : List RawRow
  /-- Whether the last batch said that rows remain. -/
  hasRemain : Bool
  /-- What the cursor has to give. -/
  state : CursorState
  /-- Rows to fetch at a time. -/
  fetchSize : UInt32
  /-- Rows received so far. -/
  rowCount : Nat
  /-- The codec of the session. -/
  codec : Codec
  /-- Whether the cursor frees its statement. -/
  ownsStatement : Bool
  /-- Whether the cursor was closed. -/
  closed : Bool
  deriving DecidableEq

namespace Cursor

/-- The mode of a cursor that came as a value. -/
def refMode : UInt32 := 1

/-- What a cursor says when a fetch fails. -/
def fetchContext : String := "failed to fetch the next batch of rows"

/-- The cursor with its state found anew. -/
def refresh (cursor : Cursor) : Cursor :=
  { cursor with
    state :=
      if !cursor.buffer.isEmpty then .hasBufferedRows
      else if cursor.hasRemain && !cursor.closed then .unfetched
      else .exhausted }

/-- A cursor over a first batch, which owns its statement. -/
def ofBatch (statement : UInt32) (id : UInt64) (mode : UInt32) (batch : RowBatch)
    (fetchSize : UInt32) (codec : Codec) : Cursor :=
  refresh
    { statement, id, mode, fetchSize, codec
      columns := batch.columns
      buffer := batch.rows
      hasRemain := batch.hasRemain
      state := .unfetched
      rowCount := batch.rows.length
      ownsStatement := true
      closed := false }

/-- A cursor before its first batch, over a statement that others own. -/
def unfetched (statement : UInt32) (id : UInt64) (mode fetchSize : UInt32) (codec : Codec) :
    Cursor :=
  { statement, id, mode, fetchSize, codec
    columns := []
    buffer := []
    hasRemain := true
    state := .unfetched
    rowCount := 0
    ownsStatement := false
    closed := false }

/-- The request for the next batch. -/
def fetchRequest (cursor : Cursor) : FetchRequest :=
  ⟨cursor.statement, cursor.id, cursor.mode, cursor.fetchSize⟩

/-- The cursor with one more batch. A batch without columns leaves the columns as they are. -/
def absorb (cursor : Cursor) (batch : RowBatch) : Cursor :=
  refresh
    { cursor with
      columns := if batch.columns.isEmpty then cursor.columns else batch.columns
      rowCount := cursor.rowCount + batch.rows.length
      buffer := cursor.buffer ++ batch.rows
      hasRemain := batch.hasRemain }

/-- Whether another row may come. -/
def hasMore (cursor : Cursor) : Bool :=
  !cursor.buffer.isEmpty || (cursor.hasRemain && !cursor.closed)

/-- The cursor with a number of rows to fetch at a time, at least one. -/
def setFetchSize (cursor : Cursor) (size : UInt32) : Cursor :=
  { cursor with fetchSize := if size = 0 then 1 else size }

/-- What diagnostics show. -/
def detail (cursor : Cursor) : String :=
  Text.partialRecord "RowCursor"
    [("stmt_id", toString cursor.statement.toNat), ("cursor_id", toString cursor.id.toNat),
      ("state", cursor.state.name), ("closed", Value.boolText cursor.closed)]

/-- A computation on a cursor and its source. -/
abbrev Action (σ : Type) := EStateM Interrupt (σ × Cursor)

variable {σ : Type}

/-- A failed fetch as the caller sees it. -/
def fetchInterrupt : Interrupt → Interrupt
  | .failed error => .failed (.retrieval fetchContext error)
  | .waiting => .waiting

/-- The next row: from the buffer, or after as many fetches as it takes to fill the buffer; nothing
when there are no more rows. -/
def nextFrom (source : Source σ) (store : σ) (cursor : Cursor) :
    EStateM.Result Interrupt (σ × Cursor) (Option Row) :=
  match cursor.buffer with
  | raw :: rest =>
    .ok (some ⟨raw, cursor.columns, cursor.codec⟩)
      (store, refresh { cursor with buffer := rest })
  | [] =>
    if !cursor.hasRemain || cursor.closed then
      .ok none (store, { cursor with state := .exhausted })
    else
      match _ : source.fetch cursor.fetchRequest store with
      | .ok batch after => nextFrom source after (cursor.absorb batch)
      | .error interrupt after => .error (fetchInterrupt interrupt) (after, cursor)
termination_by source.budget store
decreasing_by exact source.budget_lt ‹_›

/-- The next row, or nothing when there are no more. -/
def next (source : Source σ) : Action σ (Option Row) := fun held =>
  nextFrom source held.1 held.2

/-- Close the cursor: drop what is buffered, and free the statement if the cursor owns it. -/
def close (source : Source σ) : Action σ Unit := fun held =>
  let (store, cursor) := held
  if cursor.closed then .ok () held
  else
    let ended := refresh { cursor with closed := true, buffer := [], hasRemain := false }
    if cursor.ownsStatement then
      match source.release cursor.statement store with
      | .ok () after => .ok () (after, ended)
      | .error interrupt after => .error interrupt (after, ended)
    else .ok () (store, ended)

/-- A row that was handed out came from the buffer or from a fetch. -/
theorem budget_of_nextFrom {source : Source σ} {store store' : σ} {cursor cursor' : Cursor}
    {row : Row} (h : nextFrom source store cursor = .ok (some row) (store', cursor')) :
    source.budget store' < source.budget store ∨
      source.budget store' = source.budget store ∧
        cursor'.buffer.length < cursor.buffer.length := by
  fun_induction nextFrom source store cursor with
  | case1 store cursor raw rest buffered =>
    cases h
    right
    simp [refresh, buffered]
  | case2 => cases h
  | case3 store cursor _ _ batch after fetched ih =>
    have smaller := source.budget_lt fetched
    rcases ih h with less | ⟨same, _⟩ <;> left <;> omega
  | case4 => cases h

/-- Hand out rows until there are no more or a row cannot be had. The result is the rows and, in the
second case, why. -/
def drain (source : Source σ) (rows : List Row) (store : σ) (cursor : Cursor) :
    List Row × Option Interrupt × σ × Cursor :=
  match _ : nextFrom source store cursor with
  | .ok (some row) (store', cursor') => drain source (rows ++ [row]) store' cursor'
  | .ok none (store', cursor') => (rows, none, store', cursor')
  | .error interrupt (store', cursor') => (rows, some interrupt, store', cursor')
termination_by (source.budget store, cursor.buffer.length)
decreasing_by
  rcases budget_of_nextFrom ‹_› with less | ⟨same, less⟩
  · exact Prod.Lex.left _ _ less
  · rw [same]
    exact Prod.Lex.right _ less

/-- All rows that are left; then the cursor is closed. When a row cannot be had, the rows before it
are not returned. -/
def fetchAll (source : Source σ) : Action σ (List Row) := fun held =>
  match drain source [] held.1 held.2 with
  | (rows, none, store, cursor) =>
    match close source (store, cursor) with
    | .ok () after => .ok rows after
    | .error interrupt after => .error interrupt after
  | (_, some interrupt, store, cursor) => .error interrupt (store, cursor)

/-- Give the cursor up. The statement of a cursor that owns it and was not closed is left to be
freed later. -/
def giveUp (source : Source σ) (store : σ) (cursor : Cursor) : σ :=
  if cursor.ownsStatement && !cursor.closed then source.releaseLater cursor.statement store
  else store

/-- The next item of a stream of rows, with the cursor that the stream holds: a row, or why none
can be had. The stream ends with the latter, or without an item when there are no more rows, and
then the cursor is given up. -/
def poll (source : Source σ) (store : σ) :
    Option Cursor → Option (Except Interrupt Row) × σ × Option Cursor
  | none => (none, store, none)
  | some cursor =>
    match nextFrom source store cursor with
    | .ok (some row) (store', cursor') => (some (.ok row), store', some cursor')
    | .ok none (store', cursor') => (none, giveUp source store' cursor', none)
    | .error interrupt (store', cursor') =>
      (some (.error interrupt), giveUp source store' cursor', none)

/-- Give a stream up, and the cursor that it holds. -/
def giveUpStream (source : Source σ) (store : σ) : Option Cursor → σ
  | none => store
  | some cursor => giveUp source store cursor

end Cursor
end SqlWire
