import SqlWire.Cursor

/-!
# What a cursor does with its source

A source can be observed: everything that is done with it goes into a log, and otherwise nothing
changes. So what a cursor does with any source can be read off the log. One call for a row takes one
of four courses (`course_of_nextFrom`), and each of its fetches is made by a cursor that wants rows
(`Course.wants`).
-/
namespace SqlWire

/-- What was done with a source, and what came of it. -/
inductive Contact where
  /-- A batch was to be fetched. -/
  | fetched (request : FetchRequest) (outcome : Except Interrupt RowBatch)
  /-- A statement was to be freed. -/
  | released (statement : UInt32) (outcome : Except Interrupt Unit)
  /-- A statement was left to be freed later. -/
  | left (statement : UInt32)

namespace Contact

/-- The batch of a fetch that succeeded. -/
def batch? : Contact → Option RowBatch
  | .fetched _ (.ok batch) => some batch
  | _ => none

/-- The batches that were received, in order. -/
def batches (contacts : List Contact) : List RowBatch := contacts.filterMap batch?

@[simp] theorem batches_nil : batches [] = [] := rfl

@[simp] theorem batches_append (first second : List Contact) :
    batches (first ++ second) = batches first ++ batches second := List.filterMap_append

@[simp] theorem batches_cons_fetched_ok (request : FetchRequest) (batch : RowBatch)
    (rest : List Contact) :
    batches (.fetched request (.ok batch) :: rest) = batch :: batches rest := rfl

@[simp] theorem batches_cons_fetched_error (request : FetchRequest) (stop : Interrupt)
    (rest : List Contact) : batches (.fetched request (.error stop) :: rest) = batches rest := rfl

end Contact

namespace Source

variable {σ α : Type}

/-- A state with a log of contacts. -/
abbrev Logged (σ : Type) := List Contact × σ

/-- A computation that logs what came of it. -/
def logging (contact : Except Interrupt α → Contact) (action : EStateM Interrupt σ α) :
    EStateM Interrupt (Logged σ) α := fun held =>
  match action held.2 with
  | .ok value after => .ok value (held.1 ++ [contact (.ok value)], after)
  | .error stop after => .error stop (held.1 ++ [contact (.error stop)], after)

/-- A computation that logs ends as it does without. -/
theorem logging_of_ok {contact : Except Interrupt α → Contact} {action : EStateM Interrupt σ α}
    {contacts : List Contact} {before after : σ} {value : α}
    (done : action before = .ok value after) :
    logging contact action (contacts, before) =
      .ok value (contacts ++ [contact (.ok value)], after) := by
  simp only [logging, done]

/-- A computation that logs stops as it does without. -/
theorem logging_of_error {contact : Except Interrupt α → Contact}
    {action : EStateM Interrupt σ α} {contacts : List Contact} {before after : σ}
    {stop : Interrupt} (stopped : action before = .error stop after) :
    logging contact action (contacts, before) =
      .error stop (contacts ++ [contact (.error stop)], after) := by
  simp only [logging, stopped]

/-- The source with a log of all that is done with it. -/
def observed (source : Source σ) : Source (Logged σ) where
  fetch request := logging (.fetched request) (source.fetch request)
  release statement := logging (.released statement) (source.release statement)
  releaseLater statement held :=
    (held.1 ++ [.left statement], source.releaseLater statement held.2)
  budget held := source.budget held.2
  budget_lt {request batch before after} h := by
    cases done : source.fetch request before.2 with
    | ok value store =>
      rw [logging_of_ok done] at h
      cases h
      exact source.budget_lt done
    | error stop store =>
      rw [logging_of_error done] at h
      cases h

section Fetch

variable {source : Source σ} {contacts : List Contact} {request : FetchRequest} {before after : σ}

/-- A fetch that succeeds does so when it is observed, and is logged. -/
theorem observed_fetch_of_ok {batch : RowBatch}
    (fetched : source.fetch request before = .ok batch after) :
    source.observed.fetch request (contacts, before) =
      .ok batch (contacts ++ [.fetched request (.ok batch)], after) := logging_of_ok fetched

/-- A fetch that fails does so when it is observed, and is logged. -/
theorem observed_fetch_of_error {stop : Interrupt}
    (stopped : source.fetch request before = .error stop after) :
    source.observed.fetch request (contacts, before) =
      .error stop (contacts ++ [.fetched request (.error stop)], after) :=
  logging_of_error stopped

end Fetch

/-- A result together with a log. -/
def withLog (contacts : List Contact) : EStateM.Result Interrupt (σ × Cursor) α →
    EStateM.Result Interrupt (Logged σ × Cursor) α
  | .ok value (store, cursor) => .ok value ((contacts, store), cursor)
  | .error stop (store, cursor) => .error stop ((contacts, store), cursor)

/-- A source whose fetches end as a script says. Behind the end of the script a fetch waits. -/
def scripted : Source (List (Except Interrupt RowBatch)) where
  fetch _
    | [] => .error .waiting []
    | .ok batch :: rest => .ok batch rest
    | .error stop :: rest => .error stop rest
  release _ := pure ()
  releaseLater _ script := script
  budget := List.length
  budget_lt {_ _ before _} h := by
    cases before with
    | nil => cases h
    | cons first rest =>
      cases first with
      | ok batch =>
        cases h
        exact Nat.lt_succ_self _
      | error stop => cases h

end Source

namespace Cursor

variable {σ : Type} {source : Source σ} {store after : σ} {cursor : Cursor}

/-- Whether a cursor has to fetch before it has a row: nothing is buffered, rows remain, and it is
open. -/
def Wants (cursor : Cursor) : Prop :=
  cursor.buffer = [] ∧ cursor.hasRemain = true ∧ cursor.closed = false

/-- Whether a cursor has no more rows: nothing is buffered and nothing is to be fetched. -/
def Drained (cursor : Cursor) : Prop :=
  cursor.buffer = [] ∧ (cursor.hasRemain = false ∨ cursor.closed = true)

/-- A buffered row is handed out. -/
theorem nextFrom_of_buffered {raw : RawRow} {rest : List RawRow}
    (buffered : cursor.buffer = raw :: rest) :
    nextFrom source store cursor =
      .ok (some ⟨raw, cursor.columns, cursor.codec⟩)
        (store, refresh { cursor with buffer := rest }) := by
  rw [nextFrom, buffered]

/-- A cursor without more rows says so. -/
theorem nextFrom_of_drained (drained : cursor.Drained) :
    nextFrom source store cursor = .ok none (store, { cursor with state := .exhausted }) := by
  obtain ⟨empty, ended⟩ := drained
  have stops : (!cursor.hasRemain || cursor.closed) = true := by simpa using ended
  rw [nextFrom, empty]
  simp only [stops, if_true]

/-- A batch that is fetched is taken in, and the cursor goes on. -/
theorem nextFrom_of_fetch_eq_ok {batch : RowBatch} (wants : cursor.Wants)
    (fetched : source.fetch cursor.fetchRequest store = .ok batch after) :
    nextFrom source store cursor = nextFrom source after (cursor.absorb batch) := by
  obtain ⟨empty, remain, opened⟩ := wants
  have goes : ¬ (!cursor.hasRemain || cursor.closed) = true := by simp [remain, opened]
  rw [nextFrom, empty]
  dsimp only
  rw [if_neg goes]
  split
  · rename_i found
    rw [fetched] at found
    cases found
    rfl
  · rename_i found
    rw [fetched] at found
    cases found

/-- A fetch that fails stops the call. -/
theorem nextFrom_of_fetch_eq_error {stop : Interrupt} (wants : cursor.Wants)
    (stopped : source.fetch cursor.fetchRequest store = .error stop after) :
    nextFrom source store cursor = .error (fetchInterrupt stop) (after, cursor) := by
  obtain ⟨empty, remain, opened⟩ := wants
  have goes : ¬ (!cursor.hasRemain || cursor.closed) = true := by simp [remain, opened]
  rw [nextFrom, empty]
  dsimp only
  rw [if_neg goes]
  split
  · rename_i found
    rw [stopped] at found
    cases found
  · rename_i found
    rw [stopped] at found
    cases found
    rfl

/-- The cursor with more batches, one after the other. -/
def absorbAll (cursor : Cursor) (batches : List RowBatch) : Cursor := batches.foldl absorb cursor

/-- What the last of some batches says about rows that remain, or what was said before them. -/
def lastSignal (before : Bool) (batches : List RowBatch) : Bool :=
  batches.foldl (fun _ batch => batch.hasRemain) before

@[simp] theorem absorbAll_nil (cursor : Cursor) : cursor.absorbAll [] = cursor := rfl

@[simp] theorem absorbAll_cons (cursor : Cursor) (batch : RowBatch) (rest : List RowBatch) :
    cursor.absorbAll (batch :: rest) = (cursor.absorb batch).absorbAll rest := rfl

@[simp] theorem lastSignal_nil (before : Bool) : lastSignal before [] = before := rfl

@[simp] theorem lastSignal_cons (before : Bool) (batch : RowBatch) (rest : List RowBatch) :
    lastSignal before (batch :: rest) = lastSignal batch.hasRemain rest := rfl

@[simp] theorem lastSignal_append (before : Bool) (first second : List RowBatch) :
    lastSignal before (first ++ second) = lastSignal (lastSignal before first) second :=
  List.foldl_append

/-- Batches that are taken in add their rows to the buffer, in order. -/
@[simp] theorem buffer_absorbAll (cursor : Cursor) (batches : List RowBatch) :
    (cursor.absorbAll batches).buffer = cursor.buffer ++ batches.flatMap RowBatch.rows := by
  induction batches generalizing cursor with
  | nil => simp
  | cons batch rest ih =>
    rw [absorbAll_cons, ih, List.flatMap_cons, ← List.append_assoc]
    rfl

/-- After some batches rows remain if the last of them says so. -/
@[simp] theorem hasRemain_absorbAll (cursor : Cursor) (batches : List RowBatch) :
    (cursor.absorbAll batches).hasRemain = lastSignal cursor.hasRemain batches := by
  induction batches generalizing cursor with
  | nil => rfl
  | cons batch rest ih =>
    rw [absorbAll_cons, ih]
    rfl

/-- Batches that are taken in neither open nor close a cursor. -/
@[simp] theorem closed_absorbAll (cursor : Cursor) (batches : List RowBatch) :
    (cursor.absorbAll batches).closed = cursor.closed := by
  induction batches generalizing cursor with
  | nil => rfl
  | cons batch rest ih =>
    rw [absorbAll_cons, ih]
    rfl

/-- How a call for a row goes: what the cursor does with its source meanwhile, how the call ends,
and the cursor that it leaves. -/
inductive Course : Cursor → List Contact → Except Interrupt (Option Row) → Cursor → Prop where
  /-- A buffered row is handed out. -/
  | handed {cursor : Cursor} {raw : RawRow} {rest : List RawRow} : cursor.buffer = raw :: rest →
      Course cursor [] (.ok (some ⟨raw, cursor.columns, cursor.codec⟩))
        (refresh { cursor with buffer := rest })
  /-- There are no more rows. -/
  | drained {cursor : Cursor} : cursor.Drained →
      Course cursor [] (.ok none) { cursor with state := .exhausted }
  /-- A fetch fails. -/
  | refused {cursor : Cursor} (stop : Interrupt) : cursor.Wants →
      Course cursor [.fetched cursor.fetchRequest (.error stop)] (.error (fetchInterrupt stop))
        cursor
  /-- A batch is taken in before the call goes on. -/
  | refilled {cursor after : Cursor} {contacts : List Contact}
      {outcome : Except Interrupt (Option Row)} (batch : RowBatch) : cursor.Wants →
      Course (cursor.absorb batch) contacts outcome after →
      Course cursor (.fetched cursor.fetchRequest (.ok batch) :: contacts) outcome after

/-- A call for a row goes one of these ways, whatever the source does, and the log tells which. On
the source that is observed it ends as on the source itself. -/
theorem course_of_nextFrom (source : Source σ) (log : List Contact) (store : σ) (cursor : Cursor) :
    ∃ contacts, Course cursor contacts (Action.outcome (nextFrom source store cursor))
        (Action.last (nextFrom source store cursor)).2 ∧
      nextFrom source.observed (log, store) cursor =
        Source.withLog (log ++ contacts) (nextFrom source store cursor) := by
  fun_induction nextFrom source store cursor generalizing log with
  | case1 store cursor raw rest buffered =>
    refine ⟨[], .handed buffered, ?_⟩
    rw [nextFrom_of_buffered buffered, List.append_nil]
    rfl
  | case2 store cursor empty ended =>
    have drained : cursor.Drained := ⟨empty, by simpa using ended⟩
    refine ⟨[], .drained drained, ?_⟩
    rw [nextFrom_of_drained drained, List.append_nil]
    rfl
  | case3 store cursor empty goes batch after fetched ih =>
    have wants : cursor.Wants := ⟨empty, by simpa using goes⟩
    obtain ⟨contacts, course, observed⟩ := ih (log ++ [.fetched cursor.fetchRequest (.ok batch)])
    refine ⟨_, .refilled batch wants course, ?_⟩
    rw [nextFrom_of_fetch_eq_ok wants (Source.observed_fetch_of_ok fetched), observed,
      List.append_assoc, List.singleton_append]
  | case4 store cursor empty goes stop after stopped =>
    have wants : cursor.Wants := ⟨empty, by simpa using goes⟩
    exact ⟨_, .refused stop wants,
      nextFrom_of_fetch_eq_error wants (Source.observed_fetch_of_error stopped)⟩

namespace Course

variable {contacts : List Contact} {outcome : Except Interrupt (Option Row)} {final : Cursor}

/-- Every fetch of a call is made by a cursor that wants rows: the one that the call began with,
after the batches that were received until then. -/
theorem wants (course : Course cursor contacts outcome final) {front back : List Contact}
    {request : FetchRequest} {answer : Except Interrupt RowBatch}
    (split : contacts = front ++ .fetched request answer :: back) :
    (cursor.absorbAll (Contact.batches front)).Wants ∧
      request = (cursor.absorbAll (Contact.batches front)).fetchRequest := by
  induction course generalizing front with
  | handed => simp at split
  | drained => simp at split
  | refused stop wants =>
    cases front with
    | nil =>
      cases split
      exact ⟨wants, rfl⟩
    | cons first front => simp at split
  | refilled batch wants _ ih =>
    cases front with
    | nil =>
      cases split
      exact ⟨wants, rfl⟩
    | cons first front =>
      obtain ⟨rfl, rest⟩ := List.cons.inj split
      exact ih rest

/-- A call takes in the batches that it receives, and then it hands out the first buffered row, or
says that there are no more rows, or stops at a fetch that fails. -/
theorem ends (course : Course cursor contacts outcome final) :
    let filled := cursor.absorbAll (Contact.batches contacts)
    (∃ raw rest, filled.buffer = raw :: rest ∧
      outcome = .ok (some ⟨raw, filled.columns, filled.codec⟩) ∧
      final = refresh { filled with buffer := rest }) ∨
    (filled.Drained ∧ outcome = .ok none ∧ final = { filled with state := .exhausted }) ∨
    (∃ stop, filled.Wants ∧ contacts.getLast? = some (.fetched filled.fetchRequest (.error stop)) ∧
      outcome = .error (fetchInterrupt stop) ∧ final = filled) := by
  induction course with
  | handed buffered => exact .inl ⟨_, _, buffered, rfl, rfl⟩
  | drained drained => exact .inr (.inl ⟨drained, rfl, rfl⟩)
  | refused stop wants => exact .inr (.inr ⟨stop, wants, rfl, rfl, rfl⟩)
  | refilled batch _ _ ih =>
    simp only [Contact.batches_cons_fetched_ok, absorbAll_cons]
    obtain handed | drained | ⟨stop, wants, last, ended⟩ := ih
    · exact .inl handed
    · exact .inr (.inl drained)
    · refine .inr (.inr ⟨stop, wants, ?_, ended⟩)
      rw [List.getLast?_cons, last]
      rfl

/-- A fetch that fails ends the call with its reason. The cursor wanted rows when the call began,
and still does. -/
theorem of_failed_fetch (course : Course cursor contacts outcome final) {request : FetchRequest}
    {stop : Interrupt} (failed : .fetched request (.error stop) ∈ contacts) :
    outcome = .error (fetchInterrupt stop) ∧
      final = cursor.absorbAll (Contact.batches contacts) ∧ cursor.Wants ∧ final.Wants := by
  induction course with
  | handed => cases failed
  | drained => cases failed
  | refused stop wants =>
    cases List.mem_singleton.mp failed
    exact ⟨rfl, rfl, wants, wants⟩
  | refilled batch wants _ ih =>
    have later := List.mem_of_ne_of_mem (by simp) failed
    obtain ⟨stopped, kept, _, still⟩ := ih later
    exact ⟨stopped, kept, wants, still⟩

/-- A closed cursor leaves its source alone. -/
theorem eq_nil_of_closed (course : Course cursor contacts outcome final)
    (closed : cursor.closed = true) : contacts = [] := by
  cases course with
  | handed => rfl
  | drained => rfl
  | refused _ wants => exact absurd closed (by simp [wants.2.2])
  | refilled _ wants => exact absurd closed (by simp [wants.2.2])

end Course
end Cursor
end SqlWire
