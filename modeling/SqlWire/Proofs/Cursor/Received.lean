import SqlWire.Connection
import SqlWire.Proofs.Cursor.Sequence
import SqlWire.Proofs.Login.Payload
import SqlWire.Proofs.Row.Batch

/-!
# Batches that were read from bytes

Whatever a server sends, the batches of a connection were read from it: those that it fetches
(`Connection.received_source`) and the first one of a query (`Connection.exists_opening_of_query`).
When a source gives only such batches, a cursor over it receives no others
(`History.Received.run`).
-/
namespace SqlWire

/-- The batches that a cursor begins with. -/
def Opening.batches : Opening → List RowBatch
  | .ofBatch _ _ _ batch _ _ => [batch]
  | .unfetched .. => []

/-- Whether a cursor begins with a batch that was read from bytes, if it begins with one. -/
def Opening.Received (opening : Opening) : Prop := ∀ batch ∈ opening.batches, batch.Received

/-- Whether every batch that a source gives was read from bytes. -/
def Source.Received {σ : Type} (source : Source σ) : Prop :=
  ∀ {request : FetchRequest} {before after : σ} {batch : RowBatch},
    source.fetch request before = .ok batch after → batch.Received

/-- What came of a query begins with a batch that was read. -/
theorem Outcome.received_of_read_eq_ok {codec : Codec} {ordinals : List Nat} {id : UInt64}
    {mode : UInt32} {batch : RowBatch} {input rest : Bytes}
    (done : Outcome.read codec ordinals input = .ok (.query id mode batch) rest) :
    batch.Received := by
  obtain ⟨kind, _, _, done⟩ := Action.bind_eq_ok.mp done
  obtain ⟨_, _, _, done⟩ := Action.bind_eq_ok.mp done
  split at done
  · obtain ⟨_, _, _, done⟩ := Action.bind_eq_ok.mp done
    cases done
  · split at done
    · obtain ⟨_, _, _, done⟩ := Action.bind_eq_ok.mp done
      obtain ⟨_, _, _, done⟩ := Action.bind_eq_ok.mp done
      obtain ⟨found, _, read, done⟩ := Action.bind_eq_ok.mp done
      cases done
      exact ⟨codec, _, _, read⟩
    · split at done
      · obtain ⟨_, _, _, done⟩ := Action.bind_eq_ok.mp done
        cases done
      · cases done

namespace Connection

/-- A result without effects that is given is that of the computation. -/
theorem eq_ok_of_ofExcept_eq_ok {α : Type} {result : Except Error α} {value : α}
    {before after : Connection} (h : ofExcept result before = .ok value after) :
    result = .ok value := by
  cases result with
  | ok _ => cases h; rfl
  | error _ => cases h

/-- The batches that a connection fetches were read from what the server sent. -/
theorem received_source : source.Received := by
  intro wanted before after batch fetched
  obtain ⟨payload, answered, _, fetched⟩ := Action.bind_eq_ok.mp fetched
  obtain ⟨connection, _, _, fetched⟩ := Action.bind_eq_ok.mp fetched
  obtain ⟨rest, read⟩ := Login.parse_eq_ok.mp (eq_ok_of_ofExcept_eq_ok fetched)
  exact ⟨connection.codec, payload, rest, read⟩

/-- A cursor over the rows of an execution begins with a batch that was read from what the server
sent. -/
theorem exists_opening_of_execute {sql : String} {parameters : ParameterList} {cursor : Cursor}
    {before after : Connection}
    (done : execute sql parameters before = .ok (.query cursor) after) :
    ∃ opening : Opening, opening.Received ∧ opening.cursor = cursor := by
  obtain ⟨_, _, _, done⟩ := Action.bind_eq_ok.mp done
  obtain ⟨_, _, _, done⟩ := Action.bind_eq_ok.mp done
  obtain ⟨payload, answered, _, done⟩ := Action.bind_eq_ok.mp done
  rw [settle] at done
  obtain ⟨settling, _, _, done⟩ := Action.bind_eq_ok.mp done
  cases number : Reader.u32 settling.codec.order payload with
  | error error rest =>
    simp only [number] at done
    cases done
  | ok statement body =>
    cases read : Outcome.read settling.codec parameters.outputs body with
    | error error rest =>
      simp only [number, read, freeAndFail] at done
      split at done <;> cases done
    | ok outcome rest =>
      cases outcome with
      | update affected =>
        simp only [number, read] at done
        obtain ⟨_, _, _, done⟩ := Action.bind_eq_ok.mp done
        cases done
      | query id mode batch =>
        simp only [number, read] at done
        cases done
        refine ⟨.ofBatch statement id mode batch settling.params.fetchSize settling.codec, ?_, rfl⟩
        intro other member
        rw [List.mem_singleton.mp member]
        exact Outcome.received_of_read_eq_ok read
      | call outputs =>
        simp only [number, read] at done
        cases done

/-- The cursor of a query does, too. -/
theorem exists_opening_of_query {sql : String} {cursor : Cursor} {before after : Connection}
    (done : query sql before = .ok cursor after) :
    ∃ opening : Opening, opening.Received ∧ opening.cursor = cursor := by
  obtain ⟨_, _, _, done⟩ := Action.bind_eq_ok.mp done
  obtain ⟨execution, _, executed, done⟩ := Action.bind_eq_ok.mp done
  cases execution with
  | update affected => cases done
  | query found =>
    cases done
    exact exists_opening_of_execute executed
  | call statement outputs =>
    obtain ⟨_, _, _, done⟩ := Action.bind_eq_ok.mp done
    cases done

end Connection

namespace Cursor

variable {σ : Type} {source : Source σ}

/-- What a call for a row takes from its source was read from bytes. -/
theorem received_of_nextFrom (received : source.Received) (log : List Contact) (store : σ)
    (cursor : Cursor) (before : ∀ batch ∈ Contact.batches log, batch.Received) :
    ∀ batch ∈ Contact.batches
      (Action.last (nextFrom source.observed (log, store) cursor)).1.1, batch.Received := by
  fun_induction nextFrom source store cursor generalizing log with
  | case1 store cursor raw rest buffered =>
    rw [nextFrom_of_buffered buffered]
    exact before
  | case2 store cursor empty ended =>
    have drained : cursor.Drained := ⟨empty, by simpa using ended⟩
    rw [nextFrom_of_drained drained]
    exact before
  | case3 store cursor empty goes batch after fetched ih =>
    have wants : cursor.Wants := ⟨empty, by simpa using goes⟩
    rw [nextFrom_of_fetch_eq_ok wants (Source.observed_fetch_of_ok fetched)]
    apply ih
    intro other member
    rw [Contact.batches_append] at member
    rcases List.mem_append.mp member with earlier | last
    · exact before other earlier
    · rw [List.mem_singleton.mp last]
      exact received fetched
  | case4 store cursor empty goes stop after stopped =>
    have wants : cursor.Wants := ⟨empty, by simpa using goes⟩
    rw [nextFrom_of_fetch_eq_error wants (Source.observed_fetch_of_error stopped)]
    intro other member
    rw [Action.last_error, Contact.batches_append, Contact.batches_cons_fetched_error,
      Contact.batches_nil, List.append_nil] at member
    exact before other member

namespace History

variable {history : History σ}

/-- Whether all batches that were fetched so far were read from bytes. -/
def Received (history : History σ) : Prop :=
  ∀ batch ∈ Contact.batches history.contacts, batch.Received

/-- Over a source that gives only such batches, calls fetch no others. -/
theorem Received.run (before : history.Received) (received : source.Received) (calls : List Call) :
    (history.run source calls).Received := by
  apply run_of_play _ before
  intro history call before
  cases call with
  | next => exact received_of_nextFrom received _ _ _ before
  | setFetchSize size => exact before

end History
end Cursor
end SqlWire
