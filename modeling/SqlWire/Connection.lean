import SqlWire.Cursor
import SqlWire.Response.Execute
import SqlWire.Session.Login

/-!
# Connections

A connection runs requests over the channel of a session. The server holds a statement for every
execution, and the connection sees to it that each is freed: at once when nothing more can come of
it, by the cursor that owns it, or, for a cursor that was given up, in front of the next request.
Statements freed that way answer to nobody, so an error the server reports about them is dropped.
-/
namespace SqlWire

/-- A session with its channel. -/
structure Connection where
  /-- The channel. -/
  channel : Channel
  /-- The session. -/
  session : Session
  /-- The parameters of the login. -/
  params : ConnectParams
  /-- Statements to be freed in front of the next request. -/
  orphans : List UInt32

/-- What an execution gives the caller. -/
inductive Execution where
  /-- Rows were changed. -/
  | update (affected : UInt32)
  /-- A cursor over rows, which owns its statement. -/
  | query (cursor : Cursor)
  /-- The outputs of a call, with the statement, which the caller has to free. -/
  | call (statement : UInt32) (outputs : Outputs)

/-- What diagnostics show. -/
def Execution.detail : Execution → String
  | .update affected => Text.record "Update" [("affected", toString affected.toNat)]
  | .query cursor => Text.partialRecord "Query" [("cursor_id", toString cursor.id.toNat)]
  | .call statement _ => Text.partialRecord "Procedure" [("stmt_id", toString statement.toNat)]

namespace Connection

/-- A computation on a connection. -/
abbrev Action := EStateM Interrupt Connection

/-- Log in over a transport from a time zone, given by its offset in minutes. -/
def loginFrom (zone : Int16) (transport : Transport) (localAddress : String)
    (params : ConnectParams) (clientKey : ClientKey) :
    EStateM.Result Interrupt Transport Connection :=
  match Login.run params clientKey zone (.ofTransport transport localAddress) with
  | .ok session channel => .ok ⟨channel, session, params, []⟩ channel.transport
  | .error interrupt channel => .error interrupt channel.transport

/-- Log in over a transport. -/
def login : Transport → String → ConnectParams → ClientKey →
    EStateM.Result Interrupt Transport Connection := loginFrom 0

/-- Bytes from the server that were not read yet. -/
def unread (connection : Connection) : Nat := connection.channel.unread

/-- The codec of the session. -/
def codec (connection : Connection) : Codec := connection.session.codec

/-- The protocol version of the session. -/
def version (connection : Connection) : UInt32 := connection.session.protocolVersion.toUInt32

/-- Parameters for a statement of this session. -/
def parameters (connection : Connection) (count : Nat) : ParameterList :=
  .ofCount count connection.codec

/-- Fail with an error. -/
def fail {α : Type} (error : Error) : Action α := throw (.failed error)

/-- The result of a computation without effects. -/
def ofExcept {α : Type} : Except Error α → Action α
  | .ok value => pure value
  | .error error => fail error

/-- Work on the channel. -/
def onChannel {α : Type} (action : Channel.Action α) : Action α := fun connection =>
  match action connection.channel with
  | .ok value channel => .ok value { connection with channel }
  | .error interrupt channel => .error interrupt { connection with channel }

/-- Send a request, receive its answer, and return the payload. An answer that reports an error is
that error. -/
def exchange (request : Request) : Action Bytes := do
  let packet ← onChannel (Channel.roundTrip request)
  let connection ← get
  ofExcept (packet.check connection.version connection.codec)

/-- Free statements without regard to what the server answers. -/
def freeAll : List UInt32 → Action Unit
  | [] => pure ()
  | statement :: rest => do
    let _ ← onChannel (Channel.roundTrip (.free statement))
    freeAll rest

/-- Free the statements that were left. They are taken from the list before the first is sent. -/
def freeOrphans : Action Unit := do
  let orphans := (← get).orphans
  modify fun connection => { connection with orphans := [] }
  freeAll orphans

/-- Run a request after freeing the statements that were left. -/
def request (request : Request) : Action Bytes := do
  freeOrphans
  exchange request

/-- Free a statement. -/
def freeStatement (statement : UInt32) : Action Unit := do
  let _ ← request (.free statement)

/-- Commit the transaction. -/
def commit : Action Unit := do
  let _ ← request .commit

/-- Roll the transaction back. -/
def rollback : Action Unit := do
  let _ ← request .rollback

/-- Cancel what another session is doing. -/
def cancel (busy : Session) : Action Unit := do
  let _ ← request (.cancel busy.sessionId busy.sessionNumber)

/-- The types of the parameters of a statement. The statement that the server made for it is freed.
-/
def describeParameters (sql : String) : Action (List WireType) := do
  let connection ← get
  let payload ← request (.prepare (connection.session.charset.encode sql))
  let described ← ofExcept (Login.parse (DescribeResponse.read connection.session.order) payload)
  freeStatement described.statement
  pure described.types

/-- Free a statement of which nothing can come, and fail with the error that made it so. What the
server answers does not matter, but whoever is given up while waiting for it is given up. -/
def freeAndFail {α : Type} (statement : UInt32) (error : Error) : Action α := fun connection =>
  match freeStatement statement connection with
  | .error .waiting after => .error .waiting after
  | .error (.failed _) after => .error (.failed error) after
  | .ok () after => .error (.failed error) after

/-- The request that executes a statement with parameters. -/
def executeRequest (connection : Connection) (sql : String) (parameters : ParameterList) :
    Request :=
  .execute newStatement (connection.session.charset.encode sql) connection.params.fetchSize
    parameters.slots

/-- Settle an execution by the payload that answers it: the statement that the server holds for it
is freed, given to a cursor, or given to the caller. -/
def settle (parameters : ParameterList) (payload : Bytes) : Action Execution := do
  let connection ← get
  let codec := connection.codec
  match Reader.u32 codec.order payload with
  | .error error _ => fail error
  | .ok statement body =>
    match Outcome.read codec parameters.outputs body with
    | .error error _ => freeAndFail statement error
    | .ok (.update affected) _ =>
      freeStatement statement
      pure (.update affected)
    | .ok (.query id mode batch) _ =>
      pure (.query (.ofBatch statement id mode batch connection.params.fetchSize codec))
    | .ok (.call outputs) _ => pure (.call statement outputs)

/-- Execute a statement with parameters. -/
def execute (sql : String) (parameters : ParameterList) : Action Execution := do
  ofExcept parameters.checkAllBound
  let connection ← get
  let payload ← request (connection.executeRequest sql parameters)
  settle parameters payload

/-- Execute a statement without parameters that gives rows. -/
def query (sql : String) : Action Cursor := do
  let parameters := (← get).parameters 0
  match ← execute sql parameters with
  | .query cursor => pure cursor
  | .update _ => fail (.protocol .noRows)
  | .call statement _ =>
    freeStatement statement
    fail (.protocol .noRows)

/-- A cursor over rows that an output of a call refers to. -/
def openRefCursor (connection : Connection) (statement : UInt32) (id : UInt64) : Cursor :=
  .unfetched statement id Cursor.refMode connection.params.fetchSize connection.codec

/-- Fetch a batch. -/
def fetch (wanted : FetchRequest) : Action RowBatch := do
  let payload ← request
    (.fetch wanted.statement wanted.cursor wanted.mode wanted.fetchSize)
  let codec := (← get).codec
  ofExcept (Login.parse (RowBatch.read codec) payload)

/-- Work on the channel changes nothing but the channel. -/
theorem onChannel_eq_ok {α : Type} {action : Channel.Action α} {value : α}
    {before after : Connection} (h : onChannel action before = .ok value after) :
    ∃ channel, action before.channel = .ok value channel ∧ after = { before with channel } := by
  unfold onChannel at h
  split at h
  · rename_i done
    cases h
    exact ⟨_, done, rfl⟩
  · cases h

/-- A result without effects leaves the connection as it was. -/
theorem ofExcept_eq_ok {α : Type} {result : Except Error α} {value : α}
    {before after : Connection} (h : ofExcept result before = .ok value after) :
    after = before := by
  cases result with
  | ok _ => cases h; rfl
  | error _ => cases h

/-- An exchange takes bytes. -/
theorem unread_of_exchange {request : Request} {payload : Bytes} {before after : Connection}
    (h : exchange request before = .ok payload after) : after.unread < before.unread := by
  obtain ⟨packet, answered, trip, h⟩ := Action.bind_eq_ok.mp h
  obtain ⟨connection, same, got, h⟩ := Action.bind_eq_ok.mp h
  obtain ⟨rfl, rfl⟩ := Action.get_eq_ok.mp got
  obtain ⟨channel, received, rfl⟩ := onChannel_eq_ok trip
  rw [ofExcept_eq_ok h]
  exact Channel.unread_of_roundTrip received

/-- Freeing statements gives no bytes back. -/
theorem unread_of_freeAll {statements : List UInt32} {before after : Connection}
    (h : freeAll statements before = .ok () after) : after.unread ≤ before.unread := by
  induction statements generalizing before with
  | nil =>
    obtain ⟨_, rfl⟩ := Action.pure_eq_ok.mp h
    exact Nat.le_refl _
  | cons statement rest ih =>
    obtain ⟨packet, answered, trip, h⟩ := Action.bind_eq_ok.mp h
    obtain ⟨channel, received, rfl⟩ := onChannel_eq_ok trip
    exact Nat.le_of_lt (Nat.lt_of_le_of_lt (ih h) (Channel.unread_of_roundTrip received))

/-- A request that is answered takes bytes. -/
theorem unread_of_request {wanted : Request} {payload : Bytes} {before after : Connection}
    (h : request wanted before = .ok payload after) : after.unread < before.unread := by
  obtain ⟨_, freed, freeing, h⟩ := Action.bind_eq_ok.mp h
  obtain ⟨connection, same, got, freeing⟩ := Action.bind_eq_ok.mp freeing
  obtain ⟨rfl, rfl⟩ := Action.get_eq_ok.mp got
  obtain ⟨_, emptied, emptying, freeing⟩ := Action.bind_eq_ok.mp freeing
  have less := unread_of_freeAll freeing
  rw [← Action.modify_eq_ok.mp emptying] at less
  exact Nat.lt_of_lt_of_le (unread_of_exchange h) less

/-- A batch that was fetched takes bytes. -/
theorem unread_of_fetch {wanted : FetchRequest} {batch : RowBatch} {before after : Connection}
    (h : fetch wanted before = .ok batch after) : after.unread < before.unread := by
  obtain ⟨payload, answered, asked, h⟩ := Action.bind_eq_ok.mp h
  obtain ⟨connection, same, got, h⟩ := Action.bind_eq_ok.mp h
  obtain ⟨rfl, rfl⟩ := Action.get_eq_ok.mp got
  rw [ofExcept_eq_ok h]
  exact unread_of_request asked

/-- Leave a statement to be freed in front of the next request. -/
def releaseLater (statement : UInt32) (connection : Connection) : Connection :=
  { connection with orphans := connection.orphans ++ [statement] }

/-- The connection as a source of batches. -/
def source : Source Connection where
  fetch := fetch
  release := freeStatement
  releaseLater := releaseLater
  budget := unread
  budget_lt := unread_of_fetch

/-- End the session. Statements that were left go with it. -/
def close : Action Unit := do
  let _ ← exchange .logout
  onChannel Channel.shutdown

/-- What diagnostics show. -/
def detail (connection : Connection) : String :=
  Text.partialRecord "Connection"
    [("session", connection.session.detail), ("params", connection.params.detail)]

end Connection
end SqlWire
