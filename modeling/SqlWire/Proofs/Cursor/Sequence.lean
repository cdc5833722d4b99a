import SqlWire.Proofs.Cursor.Observed

/-!
# The sequence of rows that a cursor hands out

Whatever its source does, a cursor hands out the rows of its batches in order: none is lost, none
comes twice. A call that stops at a failed fetch leaves the cursor where it was, so the next call
goes on with the same row (`next_continues_sequence`).
-/
namespace SqlWire

/-- How a cursor comes about. -/
inductive Opening where
  /-- With the first batch of a query. -/
  | ofBatch (statement : UInt32) (id : UInt64) (mode : UInt32) (batch : RowBatch)
      (fetchSize : UInt32) (codec : Codec)
  /-- Before its first batch. -/
  | unfetched (statement : UInt32) (id : UInt64) (mode fetchSize : UInt32) (codec : Codec)

namespace Opening

/-- The cursor. -/
def cursor : Opening → Cursor
  | .ofBatch statement id mode batch fetchSize codec =>
    .ofBatch statement id mode batch fetchSize codec
  | .unfetched statement id mode fetchSize codec => .unfetched statement id mode fetchSize codec

/-- The rows that it begins with. -/
def rows : Opening → List RawRow
  | .ofBatch _ _ _ batch _ _ => batch.rows
  | .unfetched .. => []

/-- Whether rows remain to be fetched. Before the first batch they do. -/
def hasRemain : Opening → Bool
  | .ofBatch _ _ _ batch _ _ => batch.hasRemain
  | .unfetched .. => true

end Opening

namespace Cursor

/-- What the holder of a cursor asks for. -/
inductive Call where
  /-- A row. -/
  | next
  /-- Another number of rows to fetch at a time. -/
  | setFetchSize (size : UInt32)

/-- A cursor after some calls, with what came of them so far. -/
structure History (σ : Type) where
  /-- What was done with the source. -/
  contacts : List Contact
  /-- The rows that were handed out. -/
  rows : List Row
  /-- The state of the source. -/
  store : σ
  /-- The cursor. -/
  cursor : Cursor

namespace History

variable {σ : Type}

/-- A cursor before the first call. -/
def ofOpening (opening : Opening) (store : σ) : History σ := ⟨[], [], store, opening.cursor⟩

/-- What the next call for a row ends with. -/
def result (source : Source σ) (history : History σ) :
    EStateM.Result Interrupt (σ × Cursor) (Option Row) :=
  next source (history.store, history.cursor)

/-- What the next call for a row ends with when the source is observed. -/
def observed (source : Source σ) (history : History σ) :
    EStateM.Result Interrupt (Source.Logged σ × Cursor) (Option Row) :=
  next source.observed ((history.contacts, history.store), history.cursor)

/-- What was done with the source by the end of the next call for a row. -/
def log (source : Source σ) (history : History σ) : List Contact :=
  (Action.last (history.observed source)).1.1

/-- The rows that a call handed out. -/
def given : Except Interrupt (Option Row) → List Row
  | .ok row => row.toList
  | .error _ => []

/-- One call. -/
def play (source : Source σ) (history : History σ) : Call → History σ
  | .next =>
    { contacts := history.log source
      rows := history.rows ++ given (Action.outcome (history.result source))
      store := (Action.last (history.result source)).1
      cursor := (Action.last (history.result source)).2 }
  | .setFetchSize size => { history with cursor := history.cursor.setFetchSize size }

/-- Calls one after the other, whatever comes of each. -/
def run (source : Source σ) (history : History σ) (calls : List Call) : History σ :=
  calls.foldl (play source) history

/-- What one call keeps, calls keep. -/
theorem run_of_play {source : Source σ} {kept : History σ → Prop}
    (step : ∀ history call, kept history → kept (history.play source call)) {history : History σ}
    (start : kept history) (calls : List Call) : kept (history.run source calls) := by
  induction calls generalizing history with
  | nil => exact start
  | cons call rest ih => exact ih (step history call start)

/-- What holds between calls: the rows that were handed out and the buffered rows are those of all
batches in order, the cursor knows what the last batch said, it is open, and its state is the one
that its buffer and that signal give. -/
structure InSequence (opening : Opening) (history : History σ) : Prop where
  /-- No row is lost, none comes twice. -/
  rows_eq : history.rows.map Row.values ++ history.cursor.buffer =
    opening.rows ++ (Contact.batches history.contacts).flatMap RowBatch.rows
  /-- What the last batch said. -/
  hasRemain_eq : history.cursor.hasRemain =
    lastSignal opening.hasRemain (Contact.batches history.contacts)
  /-- The cursor is open. -/
  closed_eq : history.cursor.closed = false
  /-- The state is up to date. -/
  refresh_eq : history.cursor.refresh = history.cursor

/-- The next call for a row takes one of the courses. It ends on the source that is observed as on
the source itself, and the log tells the course. -/
theorem exists_course (source : Source σ) (history : History σ) :
    ∃ contacts, Course history.cursor contacts (Action.outcome (history.result source))
        (Action.last (history.result source)).2 ∧
      history.observed source =
        Source.withLog (history.contacts ++ contacts) (history.result source) :=
  course_of_nextFrom source history.contacts history.store history.cursor

/-- The log of a call is that of the source that is observed. -/
theorem log_of_observed {source : Source σ} {history : History σ} {contacts : List Contact}
    (observed : history.observed source = Source.withLog contacts (history.result source)) :
    history.log source = contacts := by
  rw [log, observed]
  cases history.result source <;> rfl

variable {opening : Opening} {history : History σ}

/-- A cursor begins in sequence. -/
theorem inSequence_ofOpening (opening : Opening) (store : σ) :
    (ofOpening opening store).InSequence opening := by
  cases opening with
  | ofBatch statement id mode batch fetchSize codec =>
    exact ⟨by simp [ofOpening, Opening.cursor, Opening.rows, ofBatch, refresh], rfl, rfl, rfl⟩
  | unfetched statement id mode fetchSize codec => exact ⟨rfl, rfl, rfl, rfl⟩

/-- Batches that are taken in leave the state up to date. -/
theorem refresh_absorbAll {cursor : Cursor} (current : cursor.refresh = cursor)
    (batches : List RowBatch) : (cursor.absorbAll batches).refresh = cursor.absorbAll batches := by
  induction batches generalizing cursor with
  | nil => exact current
  | cons batch rest ih => exact ih rfl

/-- A cursor without more rows is up to date when its state says so. -/
theorem refresh_of_drained {cursor : Cursor} (drained : cursor.Drained) :
    ({ cursor with state := .exhausted } : Cursor).refresh = { cursor with state := .exhausted } := by
  obtain ⟨empty, ended⟩ := drained
  have stops : (cursor.hasRemain && !cursor.closed) = false := by
    rcases ended with none | closed
    · simp [none]
    · simp [closed]
  simp only [refresh, empty, stops]
  rfl

/-- A call for a row stays in sequence. -/
theorem InSequence.next (inSequence : history.InSequence opening) (source : Source σ) :
    (history.play source .next).InSequence opening := by
  obtain ⟨contacts, course, observed⟩ := history.exists_course source
  have logged := log_of_observed observed
  have received : history.rows.map Row.values ++
      (history.cursor.absorbAll (Contact.batches contacts)).buffer =
        opening.rows ++ (Contact.batches (history.log source)).flatMap RowBatch.rows := by
    rw [buffer_absorbAll, ← List.append_assoc, inSequence.rows_eq, logged, Contact.batches_append,
      List.flatMap_append, List.append_assoc]
  have signaled : (history.cursor.absorbAll (Contact.batches contacts)).hasRemain =
      lastSignal opening.hasRemain (Contact.batches (history.log source)) := by
    rw [hasRemain_absorbAll, inSequence.hasRemain_eq, logged, Contact.batches_append,
      lastSignal_append]
  have opened : (history.cursor.absorbAll (Contact.batches contacts)).closed = false := by
    rw [closed_absorbAll, inSequence.closed_eq]
  obtain ⟨raw, rest, buffered, outcome, final⟩ | ⟨drained, outcome, final⟩ |
    ⟨stop, _, _, outcome, final⟩ := course.ends
  · constructor
    · rw [buffered] at received
      simpa [play, outcome, given, final, refresh] using received
    · simpa [play, final, refresh] using signaled
    · simpa [play, final, refresh] using opened
    · simp only [play, final]
      rfl
  · constructor
    · simpa [play, outcome, given, final] using received
    · simpa [play, final] using signaled
    · simpa [play, final] using opened
    · have exhausted := refresh_of_drained drained
      simpa only [play, final] using exhausted
  · constructor
    · simpa [play, outcome, given, final] using received
    · simpa [play, final] using signaled
    · simpa [play, final] using opened
    · simpa only [play, final] using refresh_absorbAll inSequence.refresh_eq _

/-- Another number of rows to fetch at a time changes nothing else. -/
theorem InSequence.setFetchSize (inSequence : history.InSequence opening) (source : Source σ)
    (size : UInt32) : (history.play source (.setFetchSize size)).InSequence opening where
  rows_eq := inSequence.rows_eq
  hasRemain_eq := inSequence.hasRemain_eq
  closed_eq := inSequence.closed_eq
  refresh_eq := congrArg (Cursor.setFetchSize · size) inSequence.refresh_eq

/-- Calls stay in sequence. -/
theorem InSequence.run (inSequence : history.InSequence opening) (source : Source σ)
    (calls : List Call) : (history.run source calls).InSequence opening := by
  apply run_of_play _ inSequence
  intro history call inSequence
  cases call with
  | next => exact inSequence.next source
  | setFetchSize size => exact inSequence.setFetchSize source size

/-- Empty batches that are taken in may change the columns and whether rows remain, and nothing
else. -/
theorem absorbAll_of_empty {cursor : Cursor} (current : cursor.refresh = cursor)
    {batches : List RowBatch} (empty : ∀ batch ∈ batches, batch.rows = []) :
    cursor.absorbAll batches =
      refresh { cursor with
        columns := (cursor.absorbAll batches).columns
        hasRemain := lastSignal cursor.hasRemain batches } := by
  induction batches generalizing cursor with
  | nil => exact current.symm
  | cons batch rest ih =>
    have first : batch.rows = [] := empty batch List.mem_cons_self
    have others : ∀ batch ∈ rest, batch.rows = [] := fun other later =>
      empty other (List.mem_cons_of_mem _ later)
    have taken : (cursor.absorb batch).refresh = cursor.absorb batch := rfl
    rw [absorbAll_cons, ih taken others, lastSignal_cons]
    simp [absorb, refresh, first]

/-- A call that stops at a failed fetch received only empty batches, and apart from the columns that
these describe it leaves the cursor as it was. -/
theorem eq_of_failed_fetch {cursor final : Cursor} {contacts : List Contact}
    {outcome : Except Interrupt (Option Row)} (current : cursor.refresh = cursor)
    (course : Course cursor contacts outcome final) {request : FetchRequest} {stop : Interrupt}
    (failed : .fetched request (.error stop) ∈ contacts) :
    (∀ batch ∈ Contact.batches contacts, batch.rows = []) ∧
      final = { cursor with columns := final.columns } := by
  obtain ⟨_, kept, wanted, wants⟩ := course.of_failed_fetch failed
  have rows : cursor.buffer ++ (Contact.batches contacts).flatMap RowBatch.rows = [] := by
    rw [← buffer_absorbAll, ← kept]
    exact wants.1
  have empty : ∀ batch ∈ Contact.batches contacts, batch.rows = [] :=
    List.flatMap_eq_nil_iff.mp (List.append_eq_nil_iff.mp rows).2
  have remain : lastSignal cursor.hasRemain (Contact.batches contacts) = cursor.hasRemain := by
    rw [← hasRemain_absorbAll, ← kept, wants.2.1, wanted.2.1]
  refine ⟨empty, ?_⟩
  have absorbed := absorbAll_of_empty current empty
  rw [← kept, remain] at absorbed
  calc
    final = { cursor.refresh with columns := final.columns } := absorbed
    _ = { cursor with columns := final.columns } := by rw [current]

end History

/-- A cursor after any calls, over a source that does what it likes. The rows that were handed out
and the buffered rows are those of all batches in order. The next call for a row is told by the log,
which changes nothing about it. Every fetch in it is made with nothing buffered, after a batch that
said that rows remain, and by an open cursor. It finds no row only when nothing is buffered and the
last batch said that none remain. A fetch that fails ends it with a retrieval error around the
cause, after empty batches at most, and leaves the cursor as it was but for the columns that these
describe. A closed cursor fetches nothing. -/
theorem next_continues_sequence {σ : Type} (source : Source σ) :
    (∀ (opening : Opening) (start : σ) (calls : List Call),
      let history := (History.ofOpening opening start).run source calls
      let signal := fun contacts => lastSignal opening.hasRemain (Contact.batches contacts)
      history.rows.map Row.values ++ history.cursor.buffer =
        opening.rows ++ (Contact.batches history.contacts).flatMap RowBatch.rows ∧
      ∃ contacts,
        history.observed source =
          Source.withLog (history.contacts ++ contacts) (history.result source) ∧
        (∀ front request answer back, contacts = front ++ .fetched request answer :: back →
          let asking := history.cursor.absorbAll (Contact.batches front)
          asking.buffer = [] ∧ signal (history.contacts ++ front) = true ∧
            asking.closed = false ∧ request = asking.fetchRequest) ∧
        (∀ store final, history.result source = .ok none (store, final) →
          final.buffer = [] ∧ signal (history.contacts ++ contacts) = false) ∧
        (∀ request cause, .fetched request (.error (.failed cause)) ∈ contacts →
          (∀ batch ∈ Contact.batches contacts, batch.rows = []) ∧
          ∃ store final,
            history.result source = .error (.failed (.retrieval fetchContext cause)) (store, final) ∧
            final = { history.cursor with columns := final.columns } ∧
            final = history.cursor.absorbAll (Contact.batches contacts))) ∧
    ∀ (log : List Contact) (store : σ) (cursor : Cursor), cursor.closed = true →
      (Action.last (next source.observed ((log, store), cursor))).1.1 = log := by
  constructor
  · intro opening start calls history signal
    have inSequence : history.InSequence opening :=
      (History.inSequence_ofOpening opening start).run source calls
    obtain ⟨contacts, course, observed⟩ := history.exists_course source
    refine ⟨inSequence.rows_eq, contacts, observed, ?_, ?_, ?_⟩
    · intro front request answer back split
      obtain ⟨⟨empty, remain, opened⟩, same⟩ := course.wants split
      rw [hasRemain_absorbAll, inSequence.hasRemain_eq, ← lastSignal_append,
        ← Contact.batches_append] at remain
      exact ⟨empty, remain, opened, same⟩
    · intro store final result
      rw [result] at course
      obtain ⟨_, _, _, found, _⟩ | ⟨⟨empty, ended⟩, _, final_eq⟩ | ⟨_, _, _, stopped, _⟩ :=
        course.ends
      · cases found
      · rw [hasRemain_absorbAll, closed_absorbAll, inSequence.hasRemain_eq, inSequence.closed_eq,
          ← lastSignal_append, ← Contact.batches_append] at ended
        have same : final = _ := final_eq
        exact ⟨by rw [same]; exact empty, by simpa [signal] using ended⟩
      · cases stopped
    · intro request cause failed
      obtain ⟨outcome, kept, _, _⟩ := course.of_failed_fetch failed
      obtain ⟨empty, same⟩ := History.eq_of_failed_fetch inSequence.refresh_eq course failed
      exact ⟨empty, _, _, Action.eq_error_of_outcome outcome, same, kept⟩
  · intro log store cursor closed
    obtain ⟨contacts, course, observed⟩ := course_of_nextFrom source log store cursor
    rw [next, observed, course.eq_nil_of_closed closed, List.append_nil]
    cases nextFrom source store cursor <;> rfl

/-- An empty batch and a failure between two rows: the call after the failure finds the second row.
-/
example :
    let opening := Opening.ofBatch 5 8 0 ⟨[], [[some [1]]], true⟩ 100 ⟨.little, .utf8⟩
    let script := [.ok ⟨[], [], true⟩, .error (.failed .closed), .ok ⟨[], [[some [2]]], false⟩]
    ((History.ofOpening opening script).run .scripted [.next, .next, .next, .next]).rows.map
      Row.values = [[some [1]], [some [2]]] := by
  decide +kernel

end Cursor
end SqlWire
