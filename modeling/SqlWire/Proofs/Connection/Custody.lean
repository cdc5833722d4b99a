import SqlWire.Proofs.Connection.Trips

/-!
# Where the statement of an execution ends up

The server holds a statement for every execution it answers with success. Whatever that answer says,
malformed or not, the statement ends up in exactly one place: the call frees it, or the cursor that
the call gives back owns it, or the call gives it back by its number. A call that asks for rows and
gets the outputs of a procedure frees the statement, too, for its caller never sees it.
-/
namespace SqlWire.Connection

open Channel

variable {connection : Connection} {sql : String} {parameters : ParameterList}

/-- An answered execution: the round trips that freed what was left, the answer of the server, and
the channel behind it. -/
structure Executed (connection : Connection) (sql : String) (parameters : ParameterList) where
  /-- The round trips in front of the request. -/
  frees : List Trip
  /-- They freed the statements that were left, in order. -/
  freed : frees.map Trip.request = connection.orphans.map Request.free
  /-- The answer to the request. -/
  answer : Packet
  /-- The channel after the answer. -/
  channel : Channel
  /-- All of them were answered. -/
  answered : Answered connection.channel
    (frees ++ [⟨connection.executeRequest sql parameters, answer⟩]) channel

namespace Executed

variable (executed : Executed connection sql parameters)

/-- Whether the server executed a statement: the answer reports success, and its payload begins with
the number of the statement. -/
def Names (statement : UInt32) (body : Bytes) : Prop :=
  executed.answer.header.result = 0 ∧
    executed.answer.payload = connection.codec.order.u32 statement ++ body

/-- Whether a call freed a statement: behind the answer it sent one more request, which freed the
statement and got this reply, and nothing else. -/
structure Freed (statement : UInt32) (reply : Packet) (after : Connection) : Prop where
  /-- What the call sent. -/
  sent : connection.channel.Sent after.channel
    (connection.orphans.map Request.free ++
      [connection.executeRequest sql parameters, .free statement])
  /-- What it got for the last of it. -/
  answered : roundTrip (.free statement) executed.channel = .ok reply after.channel

/-- Whether a call sent nothing behind the answer, so that no request frees the statement. -/
structure Kept (after : Connection) : Prop where
  /-- What the call sent. -/
  sent : connection.channel.Sent after.channel
    (connection.orphans.map Request.free ++ [connection.executeRequest sql parameters])
  /-- Nothing happened to the channel since the answer. -/
  channel_eq : after.channel = executed.channel

/-- A call that ends with the answer keeps the statement. -/
theorem kept : executed.Kept (connection.settled executed.channel) where
  sent := executed.answered.sent_behind executed.freed
  channel_eq := rfl

/-- A call that goes on with one more round trip, which frees a statement, frees it. -/
theorem freed_of_roundTrip {statement : UInt32} {reply : Packet} {channel : Channel}
    (answered : roundTrip (.free statement) executed.channel = .ok reply channel) :
    executed.Freed statement reply (connection.settled channel) where
  sent := by
    have both := executed.answered.append (.single answered)
    rw [List.append_assoc] at both
    exact both.sent_behind executed.freed
  answered := answered

end Executed

/-- An answer that reports success is its payload. -/
theorem check_of_success {packet : Packet} {version : UInt32} {codec : Codec}
    (success : packet.header.result = 0) : packet.check version codec = .ok packet.payload := by
  simp [Packet.check, Header.isError, success]

/-- Results without effects in a sequence are one. -/
theorem ofExcept_bind_ofExcept {α β : Type} (first : Except Error α) (next : α → Except Error β) :
    (ofExcept first >>= fun value => ofExcept (next value) : Action β) =
      ofExcept (first >>= next) := by
  cases first <;> rfl

/-- When nothing is left to be freed and a connection is usable after a request and whatever followed
it, the request was answered, and it gave what its answer says. -/
theorem request_alone_of_usable {α : Type} {wanted : Request} {next : Bytes → Action α}
    {before : Connection} (empty : before.orphans = [])
    (usable : (Action.last ((request wanted >>= next) before)).Usable) :
    ∃ reply channel, roundTrip wanted before.channel = .ok reply channel ∧
      request wanted before =
        ofExcept (reply.check before.version before.codec) (before.settled channel) := by
  obtain ⟨frees, reply, channel, freed, answered⟩ := request_of_usable usable
  have given := request_of_answered freed answered
  rw [empty, List.map_nil, List.map_eq_nil_iff] at freed
  subst freed
  exact ⟨reply, channel, answered.of_single, given⟩

/-- Free a statement and then give a result. If the connection is usable afterwards, the request was
answered, and it depends on the answer whether the result is given. -/
theorem freeStatement_then_of_usable {α : Type} {statement : UInt32} {result : Except Error α}
    {before : Connection} (empty : before.orphans = [])
    (usable : (Action.last
      ((freeStatement statement >>= fun _ => ofExcept result) before)).Usable) :
    ∃ reply channel, roundTrip (.free statement) before.channel = .ok reply channel ∧
      (freeStatement statement >>= fun _ => ofExcept result) before =
        ofExcept (reply.check before.version before.codec >>= fun _ => result)
          (before.settled channel) := by
  have asked : (freeStatement statement >>= fun _ => ofExcept result : Action α) =
      (request (.free statement) >>= fun _ => ofExcept result) := by
    rw [freeStatement, bind_assoc]
    rfl
  rw [asked] at usable ⊢
  obtain ⟨reply, channel, answered, given⟩ := request_alone_of_usable empty usable
  refine ⟨reply, channel, answered, ?_⟩
  rw [← ofExcept_bind_ofExcept]
  exact Action.bind_congr given

/-- Free a statement of which nothing can come. If the connection is usable afterwards, the request
was answered, and whatever the answer says, the error is that of the statement. -/
theorem freeAndFail_of_usable {α : Type} {statement : UInt32} {error : Error} {before : Connection}
    (empty : before.orphans = [])
    (usable : (Action.last (freeAndFail (α := α) statement error before)).Usable) :
    ∃ reply channel, roundTrip (.free statement) before.channel = .ok reply channel ∧
      freeAndFail (α := α) statement error before =
        .error (.failed error) (before.settled channel) := by
  have same : Action.last (freeAndFail (α := α) statement error before) =
      Action.last (freeStatement statement before) := by
    unfold freeAndFail
    split <;> simp [*]
  rw [same] at usable
  obtain ⟨reply, channel, answered, given⟩ := request_alone_of_usable empty usable
  have done : freeStatement statement before =
      ofExcept (reply.check before.version before.codec >>= fun _ => .ok ())
        (before.settled channel) := by
    rw [← ofExcept_bind_ofExcept]
    exact Action.bind_congr given
  refine ⟨reply, channel, answered, ?_⟩
  unfold freeAndFail
  rw [done]
  cases reply.check before.version before.codec <;> rfl

/-- When a connection is usable after an execution and whatever followed it, the execution was
answered. -/
theorem nonempty_executed {α : Type} {next : Execution → Action α}
    (bound : parameters.checkAllBound = .ok ())
    (usable : (Action.last ((execute sql parameters >>= next) connection)).Usable) :
    Nonempty (Executed connection sql parameters) := by
  rw [Action.bind_congr (execute_of_bound bound), bind_assoc] at usable
  obtain ⟨frees, answer, channel, freed, answered⟩ := request_of_usable usable
  exact ⟨⟨frees, freed, answer, channel, answered⟩⟩

/-- What becomes of an answered execution whose answer names a statement: it is settled by what
follows the number of the statement, on the connection behind the answer. -/
theorem execute_of_names {executed : Executed connection sql parameters} {statement : UInt32}
    {body : Bytes} (bound : parameters.checkAllBound = .ok ())
    (names : executed.Names statement body) :
    execute sql parameters connection =
      (match Outcome.read connection.codec parameters.outputs body with
      | .error error _ => freeAndFail statement error
      | .ok (.update affected) _ =>
        freeStatement statement >>= fun _ => ofExcept (.ok (Execution.update affected))
      | .ok (.query id mode batch) _ =>
        ofExcept (.ok (Execution.query (.ofBatch statement id mode batch
          connection.params.fetchSize connection.codec)))
      | .ok (.call outputs) _ => ofExcept (.ok (Execution.call statement outputs)))
      (connection.settled executed.channel) := by
  have given : request (connection.executeRequest sql parameters) connection =
      .ok (connection.codec.order.u32 statement ++ body)
        (connection.settled executed.channel) := by
    rw [request_of_answered executed.freed executed.answered, check_of_success names.1, names.2]
    rfl
  have number : Reader.u32 connection.codec.order (connection.codec.order.u32 statement ++ body) =
      .ok statement body := Reader.u32_eq_ok.mpr rfl
  have same : (connection.settled executed.channel).codec = connection.codec := rfl
  rw [execute_of_bound bound, Action.bind_of_ok given, settle,
    Action.bind_of_ok (Action.get_apply _)]
  simp only [same, number]
  rfl

namespace Executed

/-- Where the statement of an execution ends up. An answer that cannot be read is an error whatever
the reply to freeing the statement says, and after rows were changed that reply decides; in both
cases one request freed the statement. The cursor of a query owns it, and the outputs of a call come
with it; then no request frees it. It is never left to be freed later. -/
def Places (executed : Executed connection sql parameters) (statement : UInt32) (body : Bytes)
    (result : EStateM.Result Interrupt Connection Execution) : Prop :=
  let after := Action.last result
  after.orphans = [] ∧
    match Outcome.read connection.codec parameters.outputs body with
    | .error error _ => ∃ reply, executed.Freed statement reply after ∧
      result = .error (.failed error) after
    | .ok (.update affected) _ => ∃ reply, executed.Freed statement reply after ∧
      result = ofExcept (reply.check connection.version connection.codec >>= fun _ =>
        .ok (.update affected)) after
    | .ok (.query _ _ _) _ => executed.Kept after ∧
      ∃ cursor, result = .ok (.query cursor) after ∧ cursor.statement = statement ∧
        cursor.ownsStatement = true ∧ cursor.closed = false
    | .ok (.call outputs) _ => executed.Kept after ∧ result = .ok (.call statement outputs) after

/-- Where the statement of a query ends up. The cursor owns it, and in all other cases one request
freed it and there is no cursor. -/
def PlacesQuery (executed : Executed connection sql parameters) (statement : UInt32) (body : Bytes)
    (result : EStateM.Result Interrupt Connection Cursor) : Prop :=
  let after := Action.last result
  after.orphans = [] ∧
    match Outcome.read connection.codec parameters.outputs body with
    | .error error _ => ∃ reply, executed.Freed statement reply after ∧
      result = .error (.failed error) after
    | .ok (.query _ _ _) _ => executed.Kept after ∧
      ∃ cursor, result = .ok cursor after ∧ cursor.statement = statement ∧
        cursor.ownsStatement = true ∧ cursor.closed = false
    | .ok _ _ => ∃ reply, executed.Freed statement reply after ∧
      result = ofExcept (reply.check connection.version connection.codec >>= fun _ =>
        .error (.protocol .noRows)) after

end Executed

/-- A result without effects leaves the connection as it was. -/
@[simp] theorem last_ofExcept {α : Type} (result : Except Error α) (before : Connection) :
    Action.last (ofExcept result before) = before := by
  cases result <;> rfl

/-- An execution places its statement. -/
theorem places_of_names {executed : Executed connection sql parameters} {statement : UInt32}
    {body : Bytes} (bound : parameters.checkAllBound = .ok ())
    (usable : (Action.last (execute sql parameters connection)).Usable)
    (names : executed.Names statement body) :
    executed.Places statement body (execute sql parameters connection) := by
  rw [execute_of_names bound names] at usable ⊢
  unfold Executed.Places
  cases read : Outcome.read connection.codec parameters.outputs body with
  | error error rest =>
    simp only [read] at usable ⊢
    obtain ⟨reply, channel, freed, given⟩ := freeAndFail_of_usable rfl usable
    rw [given]
    exact ⟨rfl, reply, executed.freed_of_roundTrip freed, rfl⟩
  | ok outcome rest =>
    cases outcome with
    | update affected =>
      simp only [read] at usable ⊢
      obtain ⟨reply, channel, freed, given⟩ := freeStatement_then_of_usable rfl usable
      rw [given, last_ofExcept]
      exact ⟨rfl, reply, executed.freed_of_roundTrip freed, rfl⟩
    | query id mode batch => exact ⟨rfl, executed.kept, _, rfl, rfl, rfl, rfl⟩
    | call outputs => exact ⟨rfl, executed.kept, rfl⟩

/-- Nothing follows the freeing of a statement of which nothing can come. -/
theorem freeAndFail_bind {α β : Type} (statement : UInt32) (error : Error) (next : α → Action β) :
    (freeAndFail statement error >>= next) = freeAndFail statement error := by
  funext before
  cases freed : freeStatement statement before with
  | ok done after => simp only [bind, EStateM.bind, freeAndFail, freed]
  | error stop after => cases stop <;> simp only [bind, EStateM.bind, freeAndFail, freed]

/-- What becomes of an answered query whose answer names a statement. -/
theorem query_of_names {executed : Executed connection sql (connection.parameters 0)}
    {statement : UInt32} {body : Bytes} (names : executed.Names statement body) :
    query sql connection =
      (match Outcome.read connection.codec (connection.parameters 0).outputs body with
      | .error error _ => freeAndFail statement error
      | .ok (.query id mode batch) _ =>
        ofExcept (.ok (Cursor.ofBatch statement id mode batch connection.params.fetchSize
          connection.codec))
      | .ok _ _ => freeStatement statement >>= fun _ => ofExcept (.error (.protocol .noRows)))
      (connection.settled executed.channel) := by
  have none : (connection.parameters 0).checkAllBound = .ok () := rfl
  rw [query, Action.bind_of_ok (Action.get_apply connection),
    Action.bind_congr (execute_of_names none names)]
  cases Outcome.read connection.codec (connection.parameters 0).outputs body with
  | error error rest => simp only [freeAndFail_bind]
  | ok outcome rest =>
    cases outcome with
    | update affected =>
      simp only [bind_assoc]
      rfl
    | query id mode batch => rfl
    | call outputs => rfl

/-- A query places its statement. -/
theorem placesQuery_of_names {executed : Executed connection sql (connection.parameters 0)}
    {statement : UInt32} {body : Bytes} (usable : (Action.last (query sql connection)).Usable)
    (names : executed.Names statement body) :
    executed.PlacesQuery statement body (query sql connection) := by
  rw [query_of_names names] at usable ⊢
  unfold Executed.PlacesQuery
  cases read : Outcome.read connection.codec (connection.parameters 0).outputs body with
  | error error rest =>
    simp only [read] at usable ⊢
    obtain ⟨reply, channel, freed, given⟩ := freeAndFail_of_usable rfl usable
    rw [given]
    exact ⟨rfl, reply, executed.freed_of_roundTrip freed, rfl⟩
  | ok outcome rest =>
    cases outcome with
    | query id mode batch => exact ⟨rfl, executed.kept, _, rfl, rfl, rfl, rfl⟩
    | _ =>
      simp only [read] at usable ⊢
      obtain ⟨reply, channel, freed, given⟩ := freeStatement_then_of_usable rfl usable
      rw [given, last_ofExcept]
      exact ⟨rfl, reply, executed.freed_of_roundTrip freed, rfl⟩

/-- A connection that stays usable through an execution or a query was answered, and if the answer
names a statement, that statement ends up in exactly one place. -/
theorem execution_places_statement_once (connection : Connection) (sql : String) :
    (∀ parameters : ParameterList, parameters.checkAllBound = .ok () →
      (Action.last (execute sql parameters connection)).Usable →
      Nonempty (Executed connection sql parameters) ∧
        ∀ (executed : Executed connection sql parameters) (statement : UInt32) (body : Bytes),
          executed.Names statement body →
          executed.Places statement body (execute sql parameters connection)) ∧
    ((Action.last (query sql connection)).Usable →
      Nonempty (Executed connection sql (connection.parameters 0)) ∧
        ∀ (executed : Executed connection sql (connection.parameters 0)) (statement : UInt32)
          (body : Bytes), executed.Names statement body →
          executed.PlacesQuery statement body (query sql connection)) := by
  constructor
  · intro parameters bound usable
    refine ⟨?_, fun executed statement body names => places_of_names bound usable names⟩
    rw [← bind_pure (execute sql parameters)] at usable
    exact nonempty_executed bound usable
  · intro usable
    refine ⟨?_, fun executed statement body names => placesQuery_of_names usable names⟩
    have none : (connection.parameters 0).checkAllBound = .ok () := rfl
    rw [query, Action.bind_of_ok (Action.get_apply connection)] at usable
    exact nonempty_executed none usable

/-- A connection that has a statement left to be freed. What the server has to say is that it cannot
free it, an answer of an unknown kind, and that the statement of this answer is freed. -/
def unknownKind : Connection :=
  let answers : List Frame :=
    [⟨⟨17, 13, 1, 0, 0, 0, 0, 1⟩, 0, [9], rfl⟩,
      ⟨⟨24, 20, 0, 0, 0, 0, 0, 2⟩, 0, [0, 0, 0, 5, 9, 0, 0, 0], rfl⟩,
      ⟨⟨16, 13, 0, 0, 0, 0, 0, 3⟩, 0, [], rfl⟩]
  { channel := { ofTransport (.ofInbound (Frame.join .big answers)) "" with order := .big }
    session := ⟨23, 0, .big, .utf8, 0, 0, 0, [], 0, ⟨List.replicate 32 0, rfl⟩⟩
    params := .ofAddress "" 0 "" ""
    orphans := [7] }

/-- The answer of an unknown kind places its statement. -/
theorem execution_places_statement_once_unknown_kind :
    let parameters := unknownKind.parameters 0
    parameters.checkAllBound = .ok () ∧
      (Action.last (execute "x" parameters unknownKind)).Usable ∧
      (Action.last (query "x" unknownKind)).Usable ∧
      ∃ executed : Executed unknownKind "x" parameters,
        executed.Names 5 [9, 0, 0, 0] ∧
        executed.Places 5 [9, 0, 0, 0] (execute "x" parameters unknownKind) ∧
        executed.PlacesQuery 5 [9, 0, 0, 0] (query "x" unknownKind) := by
  intro parameters
  have executes : (Action.last (execute "x" parameters unknownKind)).channel.inFlight = false := by
    decide +kernel
  have queries : (Action.last (query "x" unknownKind)).channel.inFlight = false := by
    decide +kernel
  have freed : (Action.outcome (roundTrip (.free 7) unknownKind.channel)).toOption =
      some ⟨⟨17, 13, 1, 0, 0, 0, 0, 1⟩, [9]⟩ := by
    decide +kernel
  have answered : (Action.outcome (roundTrip (unknownKind.executeRequest "x"
      (unknownKind.parameters 0)) (Action.last (roundTrip (.free 7) unknownKind.channel)))).toOption =
      some ⟨⟨24, 20, 0, 0, 0, 0, 0, 2⟩, [0, 0, 0, 5, 9, 0, 0, 0]⟩ := by
    decide +kernel
  let executed : Executed unknownKind "x" parameters :=
    { frees := [⟨.free 7, _⟩]
      freed := rfl
      answer := _
      channel := _
      answered := .cons (Action.eq_ok_of_outcome freed)
        (.single (Action.eq_ok_of_outcome answered)) }
  have names : executed.Names 5 [9, 0, 0, 0] := ⟨rfl, rfl⟩
  obtain ⟨placed, placedQuery⟩ := execution_places_statement_once unknownKind "x"
  exact ⟨rfl, executes, queries, executed, names, (placed _ rfl executes).2 executed _ _ names,
    (placedQuery queries).2 executed _ _ names⟩

end SqlWire.Connection
