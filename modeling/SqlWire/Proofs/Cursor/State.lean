import SqlWire.Proofs.Cursor.Release

/-!
# What a cursor says about itself

Beside its buffer a cursor notes whether more rows remain, whether it was closed, which state it is
in and how many rows it received. These notes are made in several places and could come apart. They
never do: after any calls, with any failures among them, the state is the one that the buffer, the
last batch and the closing give, and the number of rows received is that of the rows taken from the
buffer and those left in it (`state_tells_rows`).
-/
namespace SqlWire.Cursor

variable {σ : Type} {source : Source σ} {store : σ} {cursor middle final : Cursor}
  {contacts more : List Contact}

section UpToDate

variable (current : cursor.refresh = cursor)
include current

/-- The state as it is found from the other notes. -/
theorem state_of_current :
    cursor.state =
      if !cursor.buffer.isEmpty then .hasBufferedRows
      else if cursor.hasRemain && !cursor.closed then .unfetched
      else .exhausted := congrArg state current.symm

/-- A cursor that is up to date says that rows are buffered when some are. -/
theorem state_eq_hasBufferedRows_iff : cursor.state = .hasBufferedRows ↔ cursor.buffer ≠ [] := by
  rw [state_of_current current]
  cases cursor.buffer <;> cases cursor.hasRemain <;> cases cursor.closed <;> simp

/-- A cursor that is up to date says that rows are to be fetched when it wants some. -/
theorem state_eq_unfetched_iff : cursor.state = .unfetched ↔ cursor.Wants := by
  rw [state_of_current current, Wants]
  cases cursor.buffer <;> cases cursor.hasRemain <;> cases cursor.closed <;> simp

/-- A cursor that is up to date says that there are no more rows when it has none. -/
theorem state_eq_exhausted_iff : cursor.state = .exhausted ↔ cursor.Drained := by
  rw [state_of_current current, Drained]
  cases cursor.buffer <;> cases cursor.hasRemain <;> cases cursor.closed <;> simp

end UpToDate

/-- Another row may come exactly when the cursor has not come to its end. -/
theorem hasMore_eq_false_iff : cursor.hasMore = false ↔ cursor.Drained := by
  rw [hasMore, Drained]
  cases cursor.buffer <;> cases cursor.hasRemain <;> cases cursor.closed <;> simp

/-- Batches that are taken in are counted by their rows. -/
theorem rowCount_absorbAll (cursor : Cursor) (batches : List RowBatch) :
    (cursor.absorbAll batches).rowCount =
      cursor.rowCount + (batches.flatMap RowBatch.rows).length := by
  induction batches generalizing cursor with
  | nil => rfl
  | cons batch rest ih =>
    rw [absorbAll_cons, ih, List.flatMap_cons, List.length_append, ← Nat.add_assoc]
    rfl

/-- How the notes of a cursor change while it deals with its source and rows are taken from its
buffer. -/
structure Noted (cursor : Cursor) (contacts : List Contact) (taken : List Row) (final : Cursor) :
    Prop where
  /-- A state that is up to date stays so. -/
  refresh_eq : cursor.refresh = cursor → final.refresh = final
  /-- Every row that arrives is counted. -/
  rowCount_eq : final.rowCount =
    cursor.rowCount + ((Contact.batches contacts).flatMap RowBatch.rows).length
  /-- A cursor that was closed is closed. -/
  closed_mono : final.closed = false → cursor.closed = false
  /-- An open cursor knows what the last batch said. -/
  hasRemain_eq : final.closed = false →
    final.hasRemain = lastSignal cursor.hasRemain (Contact.batches contacts)
  /-- The rows that leave the buffer of an open cursor are those that are taken. -/
  rows_eq : final.closed = false → taken.map Row.values ++ final.buffer =
    cursor.buffer ++ (Contact.batches contacts).flatMap RowBatch.rows

namespace Noted

/-- A cursor that does nothing. -/
theorem refl (cursor : Cursor) : Noted cursor [] [] cursor :=
  ⟨fun current => current, rfl, fun opened => opened, fun _ => rfl,
    fun _ => (List.append_nil _).symm⟩

/-- Dealings one after the other. -/
theorem append {taken others : List Row} (first : Noted cursor contacts taken middle)
    (second : Noted middle more others final) :
    Noted cursor (contacts ++ more) (taken ++ others) final where
  refresh_eq := second.refresh_eq ∘ first.refresh_eq
  rowCount_eq := by
    rw [second.rowCount_eq, first.rowCount_eq, Contact.batches_append, List.flatMap_append,
      List.length_append, Nat.add_assoc]
  closed_mono := first.closed_mono ∘ second.closed_mono
  hasRemain_eq opened := by
    rw [second.hasRemain_eq opened, first.hasRemain_eq (second.closed_mono opened),
      Contact.batches_append, lastSignal_append]
  rows_eq opened := by
    have early := first.rows_eq (second.closed_mono opened)
    calc
      (taken ++ others).map Row.values ++ final.buffer =
          taken.map Row.values ++
            (middle.buffer ++ (Contact.batches more).flatMap RowBatch.rows) := by
        rw [List.map_append, List.append_assoc, second.rows_eq opened]
      _ = cursor.buffer ++ (Contact.batches (contacts ++ more)).flatMap RowBatch.rows := by
        rw [← List.append_assoc, early, Contact.batches_append, List.flatMap_append,
          List.append_assoc]

end Noted

/-- A call for a row takes the row that it gives. -/
theorem Course.noted {outcome : Except Interrupt (Option Row)}
    (course : Course cursor contacts outcome final) :
    Noted cursor contacts (History.given outcome) final where
  refresh_eq current := by
    obtain ⟨_, _, _, _, rfl⟩ | ⟨drained, _, rfl⟩ | ⟨_, _, _, _, rfl⟩ := course.ends
    · rfl
    · exact History.refresh_of_drained drained
    · exact History.refresh_absorbAll current _
  rowCount_eq := by
    rw [← rowCount_absorbAll]
    obtain ⟨_, _, _, _, rfl⟩ | ⟨_, _, rfl⟩ | ⟨_, _, _, _, rfl⟩ := course.ends <;> rfl
  closed_mono opened := course.closed_eq.symm.trans opened
  hasRemain_eq _ := by
    rw [← hasRemain_absorbAll]
    obtain ⟨_, _, _, _, rfl⟩ | ⟨_, _, rfl⟩ | ⟨_, _, _, _, rfl⟩ := course.ends <;> rfl
  rows_eq _ := course.given_append_buffer

/-- Closing takes no rows: it drops them. -/
theorem Closing.noted {outcome : Except Interrupt Unit}
    (closing : Closing cursor contacts outcome final) : Noted cursor contacts [] final := by
  have shut : ¬ final.closed = false := by simp [closing.closed_eq]
  refine ⟨?_, ?_, fun opened => absurd opened shut, fun opened => absurd opened shut,
    fun opened => absurd opened shut⟩
  · cases closing with
    | already => exact fun current => current
    | shared => exact fun _ => rfl
    | owned => exact fun _ => rfl
  · cases closing <;> rfl

/-- Whatever a cursor does, its notes change this way. -/
theorem composes_noted : Composes Noted where
  refl := .refl
  append first second := first.append second
  course := Course.noted
  closing := Closing.noted
  resized _ size :=
    ⟨fun current => congrArg (Cursor.setFetchSize · size) current, rfl, fun opened => opened,
      fun _ => rfl, fun _ => (List.append_nil _).symm⟩

/-- A cursor that met any demands, over a source that does what it likes. It says that rows are
buffered exactly when some are; that rows are to be fetched when none are, the last batch said that
more remain (a cursor that came as a value begins so) and it is open; and else that there are no
more, which is when no other row may come. A closed cursor buffers nothing and says that there are
no more. It counts the rows that arrived, and until it is closed these are the rows that were taken
from the buffer and the buffered ones. -/
theorem state_tells_rows {σ : Type} (source : Source σ) (opening : Opening) (start : σ)
    (demands : List Demand) :
    let fresh := History.ofOpening opening start
    let held := fresh.serveAll source demands
    let cursor := held.cursor
    let signal := lastSignal opening.hasRemain (Contact.batches held.contacts)
    let received := opening.rows ++ (Contact.batches held.contacts).flatMap RowBatch.rows
    (cursor.state = .hasBufferedRows ↔ cursor.buffer ≠ []) ∧
    (cursor.state = .unfetched ↔
      cursor.buffer = [] ∧ signal = true ∧ cursor.closed = false) ∧
    (cursor.state = .exhausted ↔
      cursor.buffer = [] ∧ (signal = false ∨ cursor.closed = true)) ∧
    (cursor.hasMore = false ↔ cursor.state = .exhausted) ∧
    (cursor.closed = true → cursor.buffer = [] ∧ cursor.state = .exhausted) ∧
    cursor.rowCount = received.length ∧
    (cursor.closed = false →
      (fresh.taken source demands).map Row.values ++ cursor.buffer = received ∧
      cursor.rowCount = (fresh.taken source demands).length + cursor.buffer.length) := by
  intro fresh held cursor signal received
  obtain ⟨contacts, logged, noted⟩ := composes_noted.serveAll source fresh demands
  obtain ⟨_, _, discharge⟩ := fresh.exists_discharge_serveAll source demands
  have started : fresh.InSequence opening := History.inSequence_ofOpening opening start
  have same : Contact.batches contacts = Contact.batches held.contacts :=
    congrArg Contact.batches (logged.trans (List.nil_append contacts)).symm
  have current : cursor.refresh = cursor := noted.refresh_eq started.refresh_eq
  have tidy : cursor.closed = true → cursor.buffer = [] :=
    discharge.tidy fun shut => absurd shut (by simp [started.closed_eq])
  have signaled : cursor.closed = false → cursor.hasRemain = signal := by
    intro opened
    have first : fresh.cursor.hasRemain = opening.hasRemain := started.hasRemain_eq
    rw [noted.hasRemain_eq opened, same, first]
  have buffered : fresh.cursor.buffer = opening.rows := by
    simpa [fresh, History.ofOpening] using started.rows_eq
  have counted : cursor.rowCount = received.length := by
    have begun : fresh.cursor.rowCount = opening.rows.length := by
      cases opening <;> rfl
    rw [noted.rowCount_eq, same, begun, List.length_append]
  refine ⟨state_eq_hasBufferedRows_iff current, ?_, ?_, ?_, ?_, counted, ?_⟩
  · rw [state_eq_unfetched_iff current, Wants]
    refine and_congr_right fun _ => and_congr_left fun opened => ?_
    rw [signaled opened]
  · rw [state_eq_exhausted_iff current, Drained]
    refine and_congr_right fun _ => ?_
    cases shut : cursor.closed with
    | true => simp
    | false => simp [signaled shut]
  · rw [state_eq_exhausted_iff current, hasMore_eq_false_iff]
  · intro shut
    exact ⟨tidy shut, (state_eq_exhausted_iff current).mpr ⟨tidy shut, .inr shut⟩⟩
  · intro opened
    have kept : (fresh.taken source demands).map Row.values ++ cursor.buffer = received := by
      rw [noted.rows_eq opened, same, buffered]
    refine ⟨kept, ?_⟩
    rw [counted, ← kept, List.length_append, List.length_map]

end SqlWire.Cursor
