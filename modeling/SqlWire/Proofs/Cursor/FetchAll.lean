import SqlWire.Proofs.Cursor.Sequence

/-!
# Asking for all rows at once

A call for all rows takes them from the cursor one by one and returns them together. When it stops
on the way, at a fetch or at the freeing of the statement, nobody gets the rows that it had taken:
nothing is buffered any more, and whatever is asked of the cursor later is answered from the batches
that arrive later (`failed_fetchAll_drops_received`).
-/
namespace SqlWire

/-- Whether two requests for more rows are of the same rows, however many at a time. -/
structure FetchRequest.Same (first second : FetchRequest) : Prop where
  /-- They name the same statement. -/
  statement_eq : first.statement = second.statement
  /-- They name the same cursor of the server. -/
  cursor_eq : first.cursor = second.cursor
  /-- They give the same mode. -/
  mode_eq : first.mode = second.mode

/-- A request is of the rows that it is of. -/
theorem FetchRequest.Same.refl (request : FetchRequest) : request.Same request := ⟨rfl, rfl, rfl⟩

/-- Requests of the same rows as a third one. -/
theorem FetchRequest.Same.trans {first second third : FetchRequest} (near : first.Same second)
    (far : second.Same third) : first.Same third :=
  ⟨near.statement_eq.trans far.statement_eq, near.cursor_eq.trans far.cursor_eq,
    near.mode_eq.trans far.mode_eq⟩

namespace Cursor

variable {σ : Type} {source : Source σ} {store : σ} {cursor final : Cursor}
  {contacts : List Contact}

/-- A call for a row neither loses nor repeats one: the row that it gives and those that it leaves
in the buffer are those that were in the buffer and those of the new batches. -/
theorem Course.given_append_buffer {outcome : Except Interrupt (Option Row)}
    (course : Course cursor contacts outcome final) :
    (History.given outcome).map Row.values ++ final.buffer =
      cursor.buffer ++ (Contact.batches contacts).flatMap RowBatch.rows := by
  rw [← buffer_absorbAll]
  obtain ⟨raw, rest, buffered, rfl, rfl⟩ | ⟨_, rfl, rfl⟩ | ⟨_, _, _, rfl, rfl⟩ := course.ends
  · rw [buffered]
    rfl
  · rfl
  · rfl

/-- Batches that are taken in change nothing of the next fetch. -/
@[simp] theorem fetchRequest_absorbAll (cursor : Cursor) (batches : List RowBatch) :
    (cursor.absorbAll batches).fetchRequest = cursor.fetchRequest := by
  induction batches generalizing cursor with
  | nil => rfl
  | cons batch rest ih =>
    rw [absorbAll_cons, ih]
    rfl

/-- Batches that are taken in leave the statement with whoever owns it. -/
@[simp] theorem ownsStatement_absorbAll (cursor : Cursor) (batches : List RowBatch) :
    (cursor.absorbAll batches).ownsStatement = cursor.ownsStatement := by
  induction batches generalizing cursor with
  | nil => rfl
  | cons batch rest ih =>
    rw [absorbAll_cons, ih]
    rfl

/-- A call for a row changes neither the next fetch nor who owns the statement. -/
theorem Course.fixed {outcome : Except Interrupt (Option Row)}
    (course : Course cursor contacts outcome final) :
    final.fetchRequest = cursor.fetchRequest ∧ final.ownsStatement = cursor.ownsStatement := by
  rw [← fetchRequest_absorbAll cursor (Contact.batches contacts),
    ← ownsStatement_absorbAll cursor (Contact.batches contacts)]
  obtain ⟨_, _, _, _, rfl⟩ | ⟨_, _, rfl⟩ | ⟨_, _, _, _, rfl⟩ := course.ends <;> exact ⟨rfl, rfl⟩

/-- What a cursor keeps while it deals with its source: every fetch is of the rows that it stands
for, and it stands for the same rows afterwards. -/
structure Conduct (cursor : Cursor) (contacts : List Contact) (final : Cursor) : Prop where
  /-- Every fetch is of these rows. -/
  fetched : ∀ request outcome, Contact.fetched request outcome ∈ contacts →
    request.Same cursor.fetchRequest
  /-- Later fetches are of these rows, too. -/
  later : final.fetchRequest.Same cursor.fetchRequest

namespace Conduct

/-- A cursor that leaves its source alone and stands for the same rows. -/
theorem idle (later : final.fetchRequest.Same cursor.fetchRequest) : Conduct cursor [] final :=
  ⟨nofun, later⟩

/-- Dealings one after the other. -/
theorem append {middle : Cursor} {more : List Contact} (first : Conduct cursor contacts middle)
    (second : Conduct middle more final) : Conduct cursor (contacts ++ more) final where
  fetched request outcome member := by
    obtain early | late := List.mem_append.mp member
    · exact first.fetched request outcome early
    · exact (second.fetched request outcome late).trans first.later
  later := second.later.trans first.later

end Conduct

/-- A call for a row only fetches what its cursor stands for. -/
theorem Course.conduct {outcome : Except Interrupt (Option Row)}
    (course : Course cursor contacts outcome final) : Conduct cursor contacts final where
  fetched request answer member := by
    obtain ⟨front, back, split⟩ := List.append_of_mem member
    obtain ⟨_, rfl⟩ := course.wants split
    rw [fetchRequest_absorbAll]
    exact .refl _
  later := by
    rw [course.fixed.1]
    exact .refl _

/-- How the taking of all rows goes: what the cursor does with its source meanwhile, the rows that
it hands out, what stops it, and the cursor that it leaves. -/
inductive Sweep : Cursor → List Contact → List Row → Option Interrupt → Cursor → Prop where
  /-- There are no more rows. -/
  | ended {cursor final : Cursor} {contacts : List Contact} :
      Course cursor contacts (.ok none) final → Sweep cursor contacts [] none final
  /-- A row cannot be had. -/
  | stopped {cursor final : Cursor} {contacts : List Contact} {stop : Interrupt} :
      Course cursor contacts (.error stop) final → Sweep cursor contacts [] (some stop) final
  /-- A row is handed out before the others. -/
  | handed {cursor middle final : Cursor} {contacts more : List Contact} {row : Row}
      {rows : List Row} {stop : Option Interrupt} :
      Course cursor contacts (.ok (some row)) middle → Sweep middle more rows stop final →
      Sweep cursor (contacts ++ more) (row :: rows) stop final

/-- A row that is handed out is added to those before it. -/
theorem drain_of_row {row : Row} {rows : List Row} {store' : σ}
    (handed : nextFrom source store cursor = .ok (some row) (store', final)) :
    drain source rows store cursor = drain source (rows ++ [row]) store' final := by
  rw [drain]
  split <;> rename_i found <;> rw [handed] at found <;> cases found
  rfl

/-- Without more rows, those that were handed out are all. -/
theorem drain_of_none {rows : List Row} {store' : σ}
    (ended : nextFrom source store cursor = .ok none (store', final)) :
    drain source rows store cursor = (rows, none, store', final) := by
  rw [drain]
  split <;> rename_i found <;> rw [ended] at found <;> cases found
  rfl

/-- A row that cannot be had ends the taking. -/
theorem drain_of_error {rows : List Row} {stop : Interrupt} {store' : σ}
    (stopped : nextFrom source store cursor = .error stop (store', final)) :
    drain source rows store cursor = (rows, some stop, store', final) := by
  rw [drain]
  split <;> rename_i found <;> rw [stopped] at found <;> cases found
  rfl

/-- All rows are taken this way, whatever the source does, and the log tells how. On the source that
is observed it goes as on the source itself. -/
theorem sweep_of_drain (source : Source σ) (log : List Contact) (rows : List Row) (store : σ)
    (cursor : Cursor) :
    ∃ contacts more stop store' final,
      drain source rows store cursor = (rows ++ more, stop, store', final) ∧
      drain source.observed rows (log, store) cursor =
        (rows ++ more, stop, (log ++ contacts, store'), final) ∧
      Sweep cursor contacts more stop final := by
  fun_induction drain source rows store cursor generalizing log with
  | case1 rows store cursor row store' middle handed ih =>
    obtain ⟨first, course, observed⟩ := course_of_nextFrom source log store cursor
    rw [handed] at course observed
    obtain ⟨others, more, stop, store'', final, drained, logged, sweep⟩ := ih (log ++ first)
    refine ⟨first ++ others, row :: more, stop, store'', final, ?_, ?_, .handed course sweep⟩
    · rw [drained, List.append_assoc, List.singleton_append]
    · rw [drain_of_row observed, logged, List.append_assoc, List.append_assoc,
        List.singleton_append]
  | case2 rows store cursor store' final ended =>
    obtain ⟨contacts, course, observed⟩ := course_of_nextFrom source log store cursor
    rw [ended] at course observed
    refine ⟨contacts, [], none, store', final, ?_, ?_, .ended course⟩
    · rw [List.append_nil]
    · rw [drain_of_none observed, List.append_nil]
  | case3 rows store cursor stop store' final stopped =>
    obtain ⟨contacts, course, observed⟩ := course_of_nextFrom source log store cursor
    rw [stopped] at course observed
    refine ⟨contacts, [], some stop, store', final, ?_, ?_, .stopped course⟩
    · rw [List.append_nil]
    · rw [drain_of_error observed, List.append_nil]

namespace Sweep

variable {rows : List Row} {stop : Option Interrupt}

/-- All rows that were buffered or received are taken, in order, and none stays buffered. -/
theorem rows_eq (sweep : Sweep cursor contacts rows stop final) :
    rows.map Row.values = cursor.buffer ++ (Contact.batches contacts).flatMap RowBatch.rows ∧
      final.buffer = [] := by
  induction sweep with
  | ended course =>
    obtain ⟨_, _, _, found, _⟩ | ⟨drained, _, rfl⟩ | ⟨_, _, _, found, _⟩ := course.ends
    · cases found
    · rw [← buffer_absorbAll]
      exact ⟨drained.1.symm, drained.1⟩
    · cases found
  | stopped course =>
    obtain ⟨_, _, _, found, _⟩ | ⟨_, found, _⟩ | ⟨_, wants, _, _, rfl⟩ := course.ends
    · cases found
    · cases found
    · rw [← buffer_absorbAll]
      exact ⟨wants.1.symm, wants.1⟩
  | @handed cursor middle final contacts more row rows stop course _ ih =>
    have kept := course.given_append_buffer
    refine ⟨?_, ih.2⟩
    calc
      (row :: rows).map Row.values = [row.values] ++ rows.map Row.values := rfl
      _ = [row.values] ++ middle.buffer ++ (Contact.batches more).flatMap RowBatch.rows := by
        rw [ih.1, List.append_assoc]
      _ = cursor.buffer ++ (Contact.batches (contacts ++ more)).flatMap RowBatch.rows := by
        rw [Contact.batches_append, List.flatMap_append, ← List.append_assoc, ← kept]
        rfl

/-- The taking of all rows changes neither the next fetch nor who owns the statement. -/
theorem fixed (sweep : Sweep cursor contacts rows stop final) :
    final.fetchRequest = cursor.fetchRequest ∧ final.ownsStatement = cursor.ownsStatement := by
  induction sweep with
  | ended course => exact course.fixed
  | stopped course => exact course.fixed
  | handed course _ ih => exact ⟨ih.1.trans course.fixed.1, ih.2.trans course.fixed.2⟩

/-- What stops the taking of all rows is a fetch that fails, by a cursor that wants more rows. -/
theorem failed_fetch {reason : Interrupt}
    (sweep : Sweep cursor contacts rows (some reason) final) :
    ∃ cause, reason = fetchInterrupt cause ∧
      contacts.getLast? = some (.fetched cursor.fetchRequest (.error cause)) ∧ final.Wants := by
  generalize same : some reason = stop at sweep
  induction sweep with
  | ended course => cases same
  | stopped course =>
    cases same
    obtain ⟨_, _, _, found, _⟩ | ⟨_, found, _⟩ | ⟨cause, wants, last, found, rfl⟩ := course.ends
    · cases found
    · cases found
    · cases found
      rw [fetchRequest_absorbAll] at last
      exact ⟨cause, rfl, last, wants⟩
  | handed course _ ih =>
    obtain ⟨cause, rfl, last, wants⟩ := ih same
    rw [course.fixed.1] at last
    exact ⟨cause, rfl, by rw [List.getLast?_append, last, Option.some_or], wants⟩

end Sweep

/-- How the closing of a cursor goes: what it does with its source, how it ends, and the cursor that
it leaves. -/
inductive Closing : Cursor → List Contact → Except Interrupt Unit → Cursor → Prop where
  /-- The cursor was closed before. -/
  | already {cursor : Cursor} : cursor.closed = true → Closing cursor [] (.ok ()) cursor
  /-- Others own the statement. -/
  | shared {cursor : Cursor} : cursor.closed = false → cursor.ownsStatement = false →
      Closing cursor [] (.ok ())
        (refresh { cursor with closed := true, buffer := [], hasRemain := false })
  /-- The statement is to be freed. -/
  | owned {cursor : Cursor} (outcome : Except Interrupt Unit) : cursor.closed = false →
      cursor.ownsStatement = true →
      Closing cursor [.released cursor.statement outcome] outcome
        (refresh { cursor with closed := true, buffer := [], hasRemain := false })

/-- A cursor is closed in one of these ways, whatever the source does, and the log tells which. On
the source that is observed it goes as on the source itself. -/
theorem closing_of_close (source : Source σ) (log : List Contact) (store : σ) (cursor : Cursor) :
    ∃ contacts, Closing cursor contacts (Action.outcome (close source (store, cursor)))
        (Action.last (close source (store, cursor))).2 ∧
      close source.observed ((log, store), cursor) =
        Source.withLog (log ++ contacts) (close source (store, cursor)) := by
  cases closed : cursor.closed with
  | true =>
    refine ⟨[], ?_, ?_⟩
    · simpa [close, closed] using Closing.already closed
    · simp [close, closed, Source.withLog]
  | false =>
    cases owns : cursor.ownsStatement with
    | false =>
      refine ⟨[], ?_, ?_⟩
      · simpa [close, closed, owns] using Closing.shared closed owns
      · simp [close, closed, owns, Source.withLog]
    | true =>
      cases freed : source.release cursor.statement store with
      | ok done after =>
        refine ⟨[.released cursor.statement (.ok ())], ?_, ?_⟩
        · simpa [close, closed, owns, freed] using Closing.owned (.ok ()) closed owns
        · have logged : source.observed.release cursor.statement (log, store) = _ :=
            Source.logging_of_ok freed
          simp [close, closed, owns, freed, logged, Source.withLog]
      | error stop after =>
        refine ⟨[.released cursor.statement (.error stop)], ?_, ?_⟩
        · simpa [close, closed, owns, freed] using Closing.owned (.error stop) closed owns
        · have logged : source.observed.release cursor.statement (log, store) = _ :=
            Source.logging_of_error freed
          simp [close, closed, owns, freed, logged, Source.withLog]

/-- Closing drops what is buffered, and no batch arrives meanwhile. -/
theorem Closing.kept {outcome : Except Interrupt Unit}
    (closing : Closing cursor contacts outcome final) :
    final.buffer.Sublist cursor.buffer ∧ Contact.batches contacts = [] := by
  cases closing with
  | already closed => exact ⟨.refl _, rfl⟩
  | shared opened shared => exact ⟨List.nil_sublist _, rfl⟩
  | owned outcome opened owns => exact ⟨List.nil_sublist _, rfl⟩

/-- Closing fetches nothing, and the cursor stands for the same rows. -/
theorem Closing.conduct {outcome : Except Interrupt Unit}
    (closing : Closing cursor contacts outcome final) : Conduct cursor contacts final := by
  cases closing with
  | already closed => exact .idle (.refl _)
  | shared opened shared => exact .idle ⟨rfl, rfl, rfl⟩
  | owned outcome opened owns =>
    refine ⟨?_, ⟨rfl, rfl, rfl⟩⟩
    intro request answer member
    cases List.mem_singleton.mp member

/-- Closing only fails when the statement cannot be freed, and the cursor is closed then. -/
theorem Closing.failed {stop : Interrupt} (closing : Closing cursor contacts (.error stop) final) :
    contacts = [.released cursor.statement (.error stop)] ∧ cursor.ownsStatement = true ∧
      final.closed = true := by
  cases closing with
  | owned outcome opened owns => exact ⟨rfl, owns, rfl⟩

/-- A computation on a cursor that goes the same way when its source is observed still does so when
its value is put another way. -/
theorem withLog_bind_pure {α β : Type} {action : Action σ α} {action' : Action (Source.Logged σ) α}
    {held : σ × Cursor} {held' : Source.Logged σ × Cursor} {log : List Contact} (convert : α → β)
    (same : action' held' = Source.withLog log (action held)) :
    (action' >>= fun value => pure (convert value)) held' =
      Source.withLog log ((action >>= fun value => pure (convert value)) held) := by
  cases ended : action held with
  | ok value after =>
    rw [ended] at same
    rw [Action.bind_of_ok ended, Action.bind_of_ok same]
    rfl
  | error stop after =>
    rw [ended] at same
    rw [Action.bind_of_error ended, Action.bind_of_error same]
    rfl

/-- A call for all rows that cannot have one of them stops there. -/
theorem fetchAll_of_stopped {rows : List Row} {stop : Interrupt} {store' : σ}
    (drained : drain source [] store cursor = (rows, some stop, store', final)) :
    fetchAll source (store, cursor) = .error stop (store', final) := by
  rw [fetchAll, drained]

/-- A call for all rows that has them closes the cursor before it returns them. -/
theorem fetchAll_of_ended {rows : List Row} {store' : σ}
    (drained : drain source [] store cursor = (rows, none, store', final)) :
    fetchAll source (store, cursor) = (close source >>= fun _ => pure rows) (store', final) := by
  rw [fetchAll, drained]
  cases closed : close source (store', final) with
  | ok done after =>
    rw [Action.bind_of_ok closed]
    simp only [closed]
    rfl
  | error stop after =>
    rw [Action.bind_of_error closed]
    simp only [closed]

/-- How a call for all rows goes: what the cursor does with its source, how the call ends, and the
cursor that it leaves. -/
inductive Gathering :
    Cursor → List Contact → Except Interrupt (List Row) → Cursor → Prop where
  /-- A row cannot be had. -/
  | stopped {cursor final : Cursor} {contacts : List Contact} {rows : List Row}
      {stop : Interrupt} : Sweep cursor contacts rows (some stop) final →
      Gathering cursor contacts (.error stop) final
  /-- All rows are there, and the cursor is closed. -/
  | closed {cursor middle final : Cursor} {contacts more : List Contact} {rows : List Row}
      {outcome : Except Interrupt Unit} : Sweep cursor contacts rows none middle →
      Closing middle more outcome final →
      Gathering cursor (contacts ++ more) (outcome.map fun _ => rows) final

/-- A call for all rows goes one of these ways, whatever the source does, and the log tells which.
On the source that is observed it goes as on the source itself. -/
theorem gathering_of_fetchAll (source : Source σ) (log : List Contact) (store : σ)
    (cursor : Cursor) :
    ∃ contacts, Gathering cursor contacts (Action.outcome (fetchAll source (store, cursor)))
        (Action.last (fetchAll source (store, cursor))).2 ∧
      fetchAll source.observed ((log, store), cursor) =
        Source.withLog (log ++ contacts) (fetchAll source (store, cursor)) := by
  obtain ⟨taken, rows, stop, store', middle, drained, observed, sweep⟩ :=
    sweep_of_drain source log [] store cursor
  cases stop with
  | some reason =>
    rw [fetchAll_of_stopped drained, fetchAll_of_stopped observed]
    exact ⟨taken, .stopped sweep, rfl⟩
  | none =>
    obtain ⟨more, closing, logged⟩ := closing_of_close source (log ++ taken) store' middle
    rw [fetchAll_of_ended drained, fetchAll_of_ended observed]
    refine ⟨taken ++ more, ?_, ?_⟩
    · rw [Action.outcome_bind_pure, Action.last_bind_pure]
      exact .closed sweep closing
    · rw [withLog_bind_pure (fun _ => _) logged, List.append_assoc]

namespace Gathering

/-- However a call for all rows ends, nothing stays buffered. -/
theorem buffer_eq {outcome : Except Interrupt (List Row)}
    (gathering : Gathering cursor contacts outcome final) : final.buffer = [] := by
  cases gathering with
  | stopped sweep => exact sweep.rows_eq.2
  | closed sweep closing =>
    have dropped := closing.kept.1
    rw [sweep.rows_eq.2] at dropped
    exact List.sublist_nil.mp dropped

/-- A call for all rows fails at a fetch, and then the cursor still wants the rows of that fetch, or
at the freeing of its statement, and then it is closed. -/
theorem failed {stop : Interrupt} (gathering : Gathering cursor contacts (.error stop) final) :
    (∃ cause, stop = fetchInterrupt cause ∧
      contacts.getLast? = some (.fetched cursor.fetchRequest (.error cause)) ∧
      final.Wants ∧ final.fetchRequest = cursor.fetchRequest) ∨
    (contacts.getLast? = some (.released cursor.statement (.error stop)) ∧
      cursor.ownsStatement = true ∧ final.closed = true) := by
  generalize same : (.error stop : Except Interrupt (List Row)) = outcome at gathering
  cases gathering with
  | stopped sweep =>
    cases same
    obtain ⟨cause, reason, last, wants⟩ := sweep.failed_fetch
    exact .inl ⟨cause, reason, last, wants, sweep.fixed.1⟩
  | @closed middle _ _ more rows outcome sweep closing =>
    cases outcome with
    | ok done => cases same
    | error reason =>
      cases same
      obtain ⟨rfl, owns, closed⟩ := closing.failed
      have statement : middle.statement = cursor.statement :=
        congrArg FetchRequest.statement sweep.fixed.1
      rw [sweep.fixed.2] at owns
      rw [statement]
      exact .inr ⟨by simp, owns, closed⟩

end Gathering

/-- What the holder of a cursor may ask of it. -/
inductive Demand where
  /-- A row. -/
  | next
  /-- All rows that are left. -/
  | fetchAll
  /-- That it be closed. -/
  | close
  /-- Another number of rows to fetch at a time. -/
  | setFetchSize (size : UInt32)

namespace Demand

/-- Meet a demand. The result is the rows that the holder gets. -/
def meet : Demand → Source σ → Action σ (List Row)
  | .next, source => do
    let row ← Cursor.next source
    pure row.toList
  | .fetchAll, source => Cursor.fetchAll source
  | .close, source => do
    let _ ← Cursor.close source
    pure []
  | .setFetchSize size, _ => do
    let _ ← modify fun held => (held.1, held.2.setFetchSize size)
    pure []

/-- The rows that a demand gave. -/
def given (result : EStateM.Result Interrupt (σ × Cursor) (List Row)) : List Row :=
  (Action.outcome result).toOption.getD []

/-- A demand for a row gives the row that the call gives. -/
theorem given_next (source : Source σ) (held : σ × Cursor) :
    given (Demand.next.meet source held) =
      History.given (Action.outcome (Cursor.next source held)) := by
  rw [given, meet, Action.outcome_bind_pure]
  cases Action.outcome (Cursor.next source held) <;> rfl

/-- A demand to close gives no rows. -/
theorem given_close (source : Source σ) (held : σ × Cursor) :
    given (Demand.close.meet source held) = [] := by
  rw [given, meet, Action.outcome_bind_pure]
  cases Action.outcome (Cursor.close source held) <;> rfl

/-- The rows that leave the buffer when a demand is met. A call for all rows takes them one by one,
also when it stops before it can return them. -/
def taken (source : Source σ) (held : σ × Cursor) : Demand → List Row
  | .next => History.given (Action.outcome (Cursor.next source held))
  | .fetchAll => (drain source [] held.1 held.2).1
  | .close | .setFetchSize _ => []

/-- A demand only gives rows that leave the buffer. -/
theorem given_sublist_taken (demand : Demand) (source : Source σ) (held : σ × Cursor) :
    (given (demand.meet source held)).Sublist (demand.taken source held) := by
  cases demand with
  | next =>
    rw [given_next]
    exact .refl _
  | fetchAll =>
    obtain ⟨store, cursor⟩ := held
    rcases drained : drain source [] store cursor with ⟨rows, stop, store', middle⟩
    cases stop with
    | some reason =>
      rw [meet, fetchAll_of_stopped drained]
      exact List.nil_sublist _
    | none =>
      rw [meet, fetchAll_of_ended drained, given, Action.outcome_bind_pure, taken, drained]
      cases Action.outcome (Cursor.close source (store', middle)) with
      | ok done => exact .refl _
      | error reason => exact List.nil_sublist _
  | close =>
    rw [given_close]
    exact .refl _
  | setFetchSize size => exact .refl _

end Demand

namespace History

/-- A cursor before what is asked of it next. -/
def ofHeld (held : σ × Cursor) : History σ := ⟨[], [], held.1, held.2⟩

/-- One demand. -/
def serve (source : Source σ) (history : History σ) (demand : Demand) : History σ :=
  let result := demand.meet source (history.store, history.cursor)
  { contacts := (Action.last
      (demand.meet source.observed ((history.contacts, history.store), history.cursor))).1.1
    rows := history.rows ++ Demand.given result
    store := (Action.last result).1
    cursor := (Action.last result).2 }

/-- Demands one after the other, whatever comes of each. -/
def serveAll (source : Source σ) (history : History σ) (demands : List Demand) : History σ :=
  demands.foldl (serve source) history

/-- The rows that leave the buffer when demands are met, in order. -/
def taken (source : Source σ) (history : History σ) : List Demand → List Row
  | [] => []
  | demand :: rest =>
    demand.taken source (history.store, history.cursor) ++
      (history.serve source demand).taken source rest

end History

/-- Whether a relation between a cursor, what it does with its source, the rows that leave its
buffer meanwhile and the cursor afterwards composes: it holds of each single step of a cursor, and
of two after each other if it holds of both. -/
structure Composes (Dealt : Cursor → List Contact → List Row → Cursor → Prop) : Prop where
  /-- A cursor that does nothing. -/
  refl : ∀ cursor, Dealt cursor [] [] cursor
  /-- One thing after another. -/
  append : ∀ {cursor middle final contacts more rows others}, Dealt cursor contacts rows middle →
    Dealt middle more others final → Dealt cursor (contacts ++ more) (rows ++ others) final
  /-- A call for a row takes the row that it gives. -/
  course : ∀ {cursor contacts outcome final}, Course cursor contacts outcome final →
    Dealt cursor contacts (History.given outcome) final
  /-- Closing takes no rows: it drops them. -/
  closing : ∀ {cursor contacts outcome final}, Closing cursor contacts outcome final →
    Dealt cursor contacts [] final
  /-- Another number of rows to fetch at a time. -/
  resized : ∀ cursor size, Dealt cursor [] [] (cursor.setFetchSize size)

namespace Composes

variable {Dealt : Cursor → List Contact → List Row → Cursor → Prop} (composes : Composes Dealt)
include composes

/-- The taking of all rows takes those that it hands out, whether or not it comes to their end. -/
theorem sweep {rows : List Row} {stop : Option Interrupt}
    (sweep : Sweep cursor contacts rows stop final) : Dealt cursor contacts rows final := by
  induction sweep with
  | ended course => exact composes.course course
  | stopped course => exact composes.course course
  | handed course _ ih => exact composes.append (composes.course course) ih

/-- The log tells what a cursor does with its source when it meets a demand. -/
theorem meet (source : Source σ) (demand : Demand) (log : List Contact) (store : σ)
    (cursor : Cursor) :
    ∃ contacts,
      demand.meet source.observed ((log, store), cursor) =
        Source.withLog (log ++ contacts) (demand.meet source (store, cursor)) ∧
      Dealt cursor contacts (demand.taken source (store, cursor))
        (Action.last (demand.meet source (store, cursor))).2 := by
  cases demand with
  | next =>
    obtain ⟨contacts, course, observed⟩ := course_of_nextFrom source log store cursor
    refine ⟨contacts, withLog_bind_pure Option.toList observed, ?_⟩
    rw [Demand.meet, Action.last_bind_pure]
    exact composes.course course
  | fetchAll =>
    obtain ⟨contacts, rows, stop, after, middle, drained, observed, sweep⟩ :=
      sweep_of_drain source log [] store cursor
    have taken : Demand.fetchAll.taken source (store, cursor) = rows := by
      rw [Demand.taken, drained, List.nil_append]
    rw [taken, Demand.meet, Demand.meet]
    -- The rows have left the buffer before it is known whether the call returns them.
    cases stop with
    | some reason =>
      rw [fetchAll_of_stopped drained, fetchAll_of_stopped observed]
      exact ⟨contacts, rfl, composes.sweep sweep⟩
    | none =>
      obtain ⟨more, closing, logged⟩ := closing_of_close source (log ++ contacts) after middle
      rw [fetchAll_of_ended drained, fetchAll_of_ended observed]
      refine ⟨contacts ++ more, ?_, ?_⟩
      · rw [withLog_bind_pure (fun _ => _) logged, List.append_assoc]
      · rw [Action.last_bind_pure, ← List.append_nil rows]
        exact composes.append (composes.sweep sweep) (composes.closing closing)
  | close =>
    obtain ⟨contacts, closing, observed⟩ := closing_of_close source log store cursor
    refine ⟨contacts, withLog_bind_pure (fun _ => []) observed, ?_⟩
    rw [Demand.meet, Action.last_bind_pure]
    exact composes.closing closing
  | setFetchSize size =>
    refine ⟨[], ?_, composes.resized cursor size⟩
    rw [List.append_nil]
    rfl

/-- One demand adds what it did with the source to the log. -/
theorem serve (source : Source σ) (history : History σ) (demand : Demand) :
    let later := history.serve source demand
    ∃ contacts, later.contacts = history.contacts ++ contacts ∧
      Dealt history.cursor contacts (demand.taken source (history.store, history.cursor))
        later.cursor := by
  obtain ⟨contacts, observed, dealt⟩ :=
    composes.meet source demand history.contacts history.store history.cursor
  refine ⟨contacts, ?_, dealt⟩
  rw [History.serve, observed]
  cases demand.meet source (history.store, history.cursor) <;> rfl

/-- Demands add what they did with the source to the log. -/
theorem serveAll (source : Source σ) (history : History σ) (demands : List Demand) :
    let later := history.serveAll source demands
    ∃ contacts, later.contacts = history.contacts ++ contacts ∧
      Dealt history.cursor contacts (history.taken source demands) later.cursor := by
  induction demands generalizing history with
  | nil => exact ⟨[], (List.append_nil _).symm, composes.refl _⟩
  | cons demand rest ih =>
    obtain ⟨first, logged, dealt⟩ := composes.serve source history demand
    obtain ⟨others, later, rested⟩ := ih (history.serve source demand)
    refine ⟨first ++ others, ?_, composes.append dealt rested⟩
    calc
      _ = (history.serve source demand).contacts ++ others := later
      _ = history.contacts ++ (first ++ others) := by rw [logged, List.append_assoc]

end Composes

/-- The rows that leave the buffer and those that stay in it are some of those that were buffered
and that arrive, in order. -/
theorem composes_sublist : Composes fun cursor contacts rows final =>
    (rows.map Row.values ++ final.buffer).Sublist
      (cursor.buffer ++ (Contact.batches contacts).flatMap RowBatch.rows) where
  refl _ := List.sublist_append_left _ _
  append {cursor middle final contacts more rows others} first second := by
    rw [Contact.batches_append, List.flatMap_append, List.map_append, List.append_assoc,
      ← List.append_assoc cursor.buffer]
    refine (second.append_left _).trans ?_
    rw [← List.append_assoc]
    exact first.append_right _
  course course := by simp only [course.given_append_buffer, List.Sublist.refl]
  closing closing := by
    rw [closing.kept.2, List.flatMap_nil, List.append_nil]
    exact closing.kept.1
  resized _ _ := List.sublist_append_left _ _

/-- Whatever a cursor does, it only fetches what it stands for. -/
theorem composes_conduct : Composes fun cursor contacts _ final =>
    Conduct cursor contacts final where
  refl _ := .idle (.refl _)
  append first second := first.append second
  course := Course.conduct
  closing := Closing.conduct
  resized _ _ := .idle ⟨rfl, rfl, rfl⟩

namespace History

/-- Whatever is asked of a cursor, the rows that it gives and those that it keeps are some of those
that it had and that arrived, in order. -/
theorem sublist_serveAll (source : Source σ) (history : History σ)
    (before : (history.rows.map Row.values ++ history.cursor.buffer).Sublist
      ((Contact.batches history.contacts).flatMap RowBatch.rows))
    (demands : List Demand) :
    let later := history.serveAll source demands
    (later.rows.map Row.values ++ later.cursor.buffer).Sublist
      ((Contact.batches later.contacts).flatMap RowBatch.rows) := by
  induction demands generalizing history with
  | nil => exact before
  | cons demand rest ih =>
    apply ih (history.serve source demand)
    obtain ⟨contacts, logged, kept⟩ := composes_sublist.serve source history demand
    have given := (demand.given_sublist_taken source (history.store, history.cursor)).map Row.values
    have dealt := (given.append_right _).trans kept
    rw [logged, Contact.batches_append, List.flatMap_append, serve, List.map_append,
      List.append_assoc]
    refine (dealt.append_left _).trans ?_
    rw [← List.append_assoc]
    exact before.append_right _

/-- Whatever is asked of a cursor, it only fetches what it stands for. -/
theorem conduct_serveAll (source : Source σ) (history : History σ) (demands : List Demand) :
    let later := history.serveAll source demands
    ∃ contacts, later.contacts = history.contacts ++ contacts ∧
      Conduct history.cursor contacts later.cursor :=
  composes_conduct.serveAll source history demands

/-- Whether the rows that were handed out and the buffered ones are these, and behind them those of
all batches that arrived. -/
def InOrder (received : List RawRow) (history : History σ) : Prop :=
  history.rows.map Row.values ++ history.cursor.buffer =
    received ++ (Contact.batches history.contacts).flatMap RowBatch.rows

/-- Calls for single rows lose none. -/
theorem InOrder.run {received : List RawRow} {history : History σ}
    (inOrder : history.InOrder received) (source : Source σ) (calls : List Call) :
    (history.run source calls).InOrder received := by
  apply run_of_play _ inOrder
  intro history call inOrder
  cases call with
  | next =>
    obtain ⟨contacts, course, observed⟩ := history.exists_course source
    have kept := course.given_append_buffer
    calc
      (history.play source .next).rows.map Row.values ++
          (history.play source .next).cursor.buffer =
          history.rows.map Row.values ++
            ((given (Action.outcome (history.result source))).map Row.values ++
              (Action.last (history.result source)).2.buffer) := by
        simp only [play, List.map_append, List.append_assoc]
      _ = history.rows.map Row.values ++ history.cursor.buffer ++
          (Contact.batches contacts).flatMap RowBatch.rows := by
        rw [kept, List.append_assoc]
      _ = received ++
          (Contact.batches (history.play source .next).contacts).flatMap RowBatch.rows := by
        rw [inOrder, play, log_of_observed observed, Contact.batches_append, List.flatMap_append,
          List.append_assoc]
  | setFetchSize size => exact inOrder

end History

/-- Whether a cursor goes on with these rows: calls for single rows give them first, each once and
in order, and then those of the batches that arrive. -/
def Resumes (source : Source σ) (pending : List RawRow) (held : σ × Cursor) : Prop :=
  ∀ calls, ((History.ofHeld held).run source calls).InOrder pending

/-- A cursor goes on with the rows in its buffer and no others. -/
theorem resumes_iff {pending : List RawRow} {held : σ × Cursor} :
    Resumes source pending held ↔ held.2.buffer = pending := by
  constructor
  · intro resumes
    have now := resumes []
    simpa [History.InOrder, History.ofHeld, History.run] using now
  · intro buffered calls
    have start : (History.ofHeld held).InOrder pending := by
      simp [History.InOrder, History.ofHeld, buffered]
    exact start.run source calls

/-- A call for all rows that fails. Had any row been buffered or received by then, the cursor does
not go on with these rows: calls for single rows go on with the batches that arrive later, and so
does everything else that may be asked of it. The call failed at a fetch, and then the cursor is
open and wants that fetch again, or at the freeing of its statement, and then the cursor is closed.
-/
theorem failed_fetchAll_drops_received {σ : Type} (source : Source σ) (store : σ) (cursor : Cursor)
    {stop : Interrupt} {after : σ × Cursor}
    (failed : fetchAll source (store, cursor) = .error stop after) :
    ∃ contacts,
      fetchAll source.observed (([], store), cursor) =
        .error stop ((contacts, after.1), after.2) ∧
      (let received := cursor.buffer ++ (Contact.batches contacts).flatMap RowBatch.rows
       Resumes source received after ↔ received = []) ∧
      Resumes source [] after ∧
      (∀ demands, let later := (History.ofHeld after).serveAll source demands
        (later.rows.map Row.values ++ later.cursor.buffer).Sublist
          ((Contact.batches later.contacts).flatMap RowBatch.rows)) ∧
      ((∃ cause, stop = fetchInterrupt cause ∧
          contacts.getLast? = some (.fetched cursor.fetchRequest (.error cause)) ∧
          after.2.Wants ∧ after.2.fetchRequest = cursor.fetchRequest) ∨
        (contacts.getLast? = some (.released cursor.statement (.error stop)) ∧
          cursor.ownsStatement = true ∧ after.2.closed = true)) := by
  obtain ⟨contacts, gathering, observed⟩ := gathering_of_fetchAll source [] store cursor
  rw [failed] at gathering observed
  have empty : after.2.buffer = [] := gathering.buffer_eq
  refine ⟨contacts, observed, ?_, resumes_iff.mpr empty, ?_, gathering.failed⟩
  · simp only [resumes_iff, empty]
    exact eq_comm
  · intro demands
    have start : ((History.ofHeld after).rows.map Row.values ++
        (History.ofHeld after).cursor.buffer).Sublist
          ((Contact.batches (History.ofHeld after).contacts).flatMap RowBatch.rows) := by
      simp [History.ofHeld, empty]
    exact History.sublist_serveAll source _ start demands

/-- A cursor with one row buffered and more to come. -/
def halfway : Cursor := .ofBatch 5 8 0 ⟨[], [[some [1]]], true⟩ 100 ⟨.little, .utf8⟩

/-- A fetch that fails, and then a batch with the last row. -/
def faltering : List (Except Interrupt RowBatch) :=
  [.error (.failed .closed), .ok ⟨[], [[some [2]]], false⟩]

/-- That cursor behind its row. -/
def behind : Cursor := refresh { halfway with buffer := [] }

/-- A call for all rows of that cursor stops at the fetch. -/
theorem fetchAll_faltering :
    fetchAll .scripted (faltering, halfway) =
      .error (.failed (.retrieval fetchContext .closed)) (faltering.tail, behind) := by
  have first : nextFrom .scripted faltering halfway = .ok (some _) (faltering, behind) :=
    nextFrom_of_buffered rfl
  have refused : Source.scripted.fetch behind.fetchRequest faltering =
      .error (.failed .closed) faltering.tail := rfl
  have second : nextFrom .scripted faltering behind =
      .error (.failed (.retrieval fetchContext .closed)) (faltering.tail, behind) :=
    nextFrom_of_fetch_eq_error ⟨rfl, rfl, rfl⟩ refused
  exact fetchAll_of_stopped ((drain_of_row first).trans (drain_of_error second))

/-- The first of two rows is lost when a call for all of them fails in between: the next row that is
handed out is the second, and then there are no more. -/
theorem failed_fetchAll_loses_row :
    halfway.buffer = [[some [1]]] ∧ ∃ after,
      fetchAll .scripted (faltering, halfway) =
        .error (.failed (.retrieval fetchContext .closed)) after ∧
      ((History.ofHeld after).run .scripted [.next]).rows.map Row.values = [[some [2]]] ∧
      ((History.ofHeld after).run .scripted [.next, .next]).cursor.Drained ∧
      ¬ Resumes .scripted halfway.buffer after := by
  refine ⟨rfl, _, fetchAll_faltering, ?_, ?_, ?_⟩
  · decide +kernel
  · unfold Drained
    decide +kernel
  · rw [resumes_iff]
    decide

/-- The row in the buffer is lost, and the cursor goes on with the batches that arrive later. -/
theorem failed_fetchAll_drops_received_halfway :
    fetchAll .scripted (faltering, halfway) =
        .error (.failed (.retrieval fetchContext .closed)) (faltering.tail, behind) ∧
      ∃ contacts, [some [1]] ∈ halfway.buffer ++ (Contact.batches contacts).flatMap RowBatch.rows ∧
        ¬ Resumes .scripted (halfway.buffer ++ (Contact.batches contacts).flatMap RowBatch.rows)
          (faltering.tail, behind) ∧
        Resumes .scripted [] (faltering.tail, behind) := by
  obtain ⟨contacts, _, lost, resumes, _⟩ :=
    failed_fetchAll_drops_received .scripted faltering halfway fetchAll_faltering
  have buffered : [some [1]] ∈ halfway.buffer := by decide
  have member := List.mem_append_left
    ((Contact.batches contacts).flatMap RowBatch.rows) buffered
  refine ⟨fetchAll_faltering, contacts, member, ?_, resumes⟩
  intro resumed
  rw [lost.mp resumed] at member
  cases member

end Cursor
end SqlWire
