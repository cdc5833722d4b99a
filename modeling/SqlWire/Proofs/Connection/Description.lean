import SqlWire.Proofs.Connection.Custody
import SqlWire.Proofs.Login.Payload
import SqlWire.Proofs.Reader

/-!
# What becomes of a statement that is only described

To describe the parameters of a statement the server makes one, and holds it from its answer on. The
call frees it once the answer was read as a whole. Behind an answer that begins with the number of
the statement but does not describe parameters of known types, the call frees nothing, and the
connection does not keep the number, so the server holds that statement until the session ends
(`description_frees_readable_statement`).
-/
namespace SqlWire

/-- Whether what follows the number of a statement describes parameters of these types: their number,
two bytes, one code for each, and what aligns them. Anything may follow. -/
def DescribeResponse.LaidOut (order : ByteOrder) (types : List WireType) (body : Bytes) : Prop :=
  types.length < UInt16.size ∧
  ∃ reserved fill rest : Bytes, reserved.length = 2 ∧ fill.length = padding types.length ∧
    body = order.u16 (UInt16.ofNat types.length) ++ reserved ++
      types.map WireType.code ++ fill ++ rest

/-- A description is found exactly behind the number of its statement. -/
theorem DescribeResponse.parse_read_eq_ok {order : ByteOrder} {statement : UInt32} {body : Bytes}
    {described : DescribeResponse} :
    Login.parse (read order) (order.u32 statement ++ body) = .ok described ↔
      described.statement = statement ∧ LaidOut order described.types body := by
  have number : Reader.u32 order (order.u32 statement ++ body) = .ok statement body :=
    Reader.u32_eq_ok.mpr rfl
  rw [Login.parse_eq_ok, read, Action.bind_of_ok number]
  simp only [Action.bind_eq_ok, Reader.u16_eq_ok, Reader.skip_eq_ok, Reader.wireTypes_eq_ok,
    Action.pure_eq_ok]
  constructor
  · rintro ⟨_, count, _, rfl, _, _, ⟨reserved, rfl, two⟩, types, _, ⟨length, rfl⟩, h⟩
    obtain ⟨_, rest, ⟨fill, rfl, filled⟩, rfl, rfl⟩ := h
    have announced : UInt16.ofNat types.length = count := by rw [length, UInt16.ofNat_toNat]
    refine ⟨rfl, length ▸ count.toNat_lt_size, reserved, fill, rest, two, ?_, ?_⟩
    · rw [filled, length]
    · simp [announced]
  · rintro ⟨rfl, fits, reserved, fill, rest, two, filled, rfl⟩
    have announced : (UInt16.ofNat described.types.length).toNat = described.types.length :=
      UInt16.toNat_ofNat_of_lt' fits
    refine ⟨rest, _, _, by simp only [List.append_assoc], (), _, ⟨reserved, rfl, two⟩,
      described.types, _, ⟨announced.symm, rfl⟩, (), rest, ⟨fill, rfl, ?_⟩, rfl, rfl⟩
    rw [filled, announced]

namespace Connection

open Channel

variable {connection : Connection} {sql : String}

/-- The request that has a statement described. -/
def prepareRequest (connection : Connection) (sql : String) : Request :=
  .prepare (connection.session.charset.encode sql)

/-- An answered request for a description: the round trips that freed what was left, the answer of
the server, and the channel behind it. -/
structure Prepared (connection : Connection) (sql : String) where
  /-- The round trips in front of the request. -/
  frees : List Trip
  /-- They freed the statements that were left, in order. -/
  freed : frees.map Trip.request = connection.orphans.map Request.free
  /-- The answer to the request. -/
  answer : Packet
  /-- The channel after the answer. -/
  channel : Channel
  /-- All of them were answered. -/
  answered : Answered connection.channel
    (frees ++ [⟨connection.prepareRequest sql, answer⟩]) channel

namespace Prepared

/-- The answer to the first request of a connection that has nothing left to be freed. -/
def ofOutcome {answer : Packet} (empty : connection.orphans = [])
    (answered : (Action.outcome (roundTrip (connection.prepareRequest sql)
      connection.channel)).toOption = some answer) : Prepared connection sql where
  frees := []
  freed := by rw [empty]; rfl
  answer := answer
  channel := _
  answered := .single (Action.eq_ok_of_outcome answered)

variable (prepared : Prepared connection sql)

/-- Whether the server made a statement: the answer reports success, and its payload begins with the
number of the statement. -/
def Names (statement : UInt32) (body : Bytes) : Prop :=
  prepared.answer.header.result = 0 ∧
    prepared.answer.payload = connection.session.order.u32 statement ++ body

/-- Whether a call freed a statement: behind the answer it sent one more request, which freed the
statement and got this reply, and nothing else. -/
structure Freed (statement : UInt32) (reply : Packet) (after : Connection) : Prop where
  /-- What the call sent. -/
  sent : connection.channel.Sent after.channel
    (connection.orphans.map Request.free ++
      [connection.prepareRequest sql, .free statement])
  /-- What it got for the last of it. -/
  answered : roundTrip (.free statement) prepared.channel = .ok reply after.channel

/-- Whether a call sent nothing behind the answer. -/
structure Kept (after : Connection) : Prop where
  /-- What the call sent. -/
  sent : connection.channel.Sent after.channel
    (connection.orphans.map Request.free ++ [connection.prepareRequest sql])
  /-- Nothing happened to the channel since the answer. -/
  channel_eq : after.channel = prepared.channel

/-- A call that ends with the answer frees nothing. -/
theorem kept : prepared.Kept (connection.settled prepared.channel) where
  sent := prepared.answered.sent_behind prepared.freed
  channel_eq := rfl

/-- A call that goes on with one more round trip, which frees a statement, frees it. -/
theorem freed_of_roundTrip {statement : UInt32} {reply : Packet} {channel : Channel}
    (answered : roundTrip (.free statement) prepared.channel = .ok reply channel) :
    prepared.Freed statement reply (connection.settled channel) where
  sent := by
    have both := prepared.answered.append (.single answered)
    rw [List.append_assoc] at both
    exact both.sent_behind prepared.freed
  answered := answered

/-- A call that sent nothing behind the answer freed no statement. -/
theorem Kept.not_freed {prepared : Prepared connection sql} {after : Connection}
    (kept : prepared.Kept after) (statement : UInt32) (reply : Packet) :
    ¬ prepared.Freed statement reply after := by
  intro freed
  have less := unread_of_roundTrip freed.answered
  rw [kept.channel_eq] at less
  exact Nat.lt_irrefl _ less

/-- What becomes of the statement of a description. -/
structure Releases (statement : UInt32) (body : Bytes)
    (result : EStateM.Result Interrupt Connection (List WireType)) : Prop where
  /-- The connection does not keep the number of the statement. -/
  orphans_eq : (Action.last result).orphans = []
  /-- One request frees the statement exactly when what follows its number can be read. -/
  freed_iff : (∃ reply, prepared.Freed statement reply (Action.last result)) ↔
    ∃ types, DescribeResponse.LaidOut connection.session.order types body
  /-- Then the reply to that request decides whether the call gives the types. -/
  of_laidOut : ∀ types, DescribeResponse.LaidOut connection.session.order types body →
    ∃ reply, prepared.Freed statement reply (Action.last result) ∧
      result = ofExcept (reply.check connection.version connection.codec >>= fun _ => .ok types)
        (Action.last result)
  /-- Else the call sends nothing more and fails. -/
  of_not_laidOut : (∀ types, ¬ DescribeResponse.LaidOut connection.session.order types body) →
    prepared.Kept (Action.last result) ∧
      ∃ error, result = .error (.failed error) (Action.last result)

end Prepared

/-- A description asks the server, reads its answer, and frees the statement that this names. -/
theorem describeParameters_eq (sql : String) (connection : Connection) :
    describeParameters sql connection =
      (request (connection.prepareRequest sql) >>= fun payload =>
        ofExcept (Login.parse (DescribeResponse.read connection.session.order) payload) >>=
          fun described => freeStatement described.statement >>= fun _ =>
            ofExcept (.ok described.types)) connection := by
  rw [describeParameters, Action.bind_of_ok (Action.get_apply connection)]
  rfl

/-- When a connection is usable after a description, the server answered the request for it. -/
theorem nonempty_prepared (usable : (Action.last (describeParameters sql connection)).Usable) :
    Nonempty (Prepared connection sql) := by
  rw [describeParameters_eq] at usable
  obtain ⟨frees, answer, channel, freed, answered⟩ := request_of_usable usable
  exact ⟨⟨frees, freed, answer, channel, answered⟩⟩

/-- What becomes of an answered description whose answer names a statement: the answer decides, on
the connection behind it. -/
theorem describeParameters_of_names {prepared : Prepared connection sql} {statement : UInt32}
    {body : Bytes} (names : prepared.Names statement body) :
    describeParameters sql connection =
      (ofExcept (Login.parse (DescribeResponse.read connection.session.order)
        (connection.session.order.u32 statement ++ body)) >>= fun described =>
          freeStatement described.statement >>= fun _ => ofExcept (.ok described.types))
        (connection.settled prepared.channel) := by
  have given : request (connection.prepareRequest sql) connection =
      .ok (connection.session.order.u32 statement ++ body)
        (connection.settled prepared.channel) := by
    rw [request_of_answered prepared.freed prepared.answered, check_of_success names.1, names.2]
    rfl
  rw [describeParameters_eq, Action.bind_of_ok given]

/-- Behind an answer that can be read one request frees the statement. -/
theorem freed_of_laidOut {prepared : Prepared connection sql} {statement : UInt32} {body : Bytes}
    {types : List WireType} (usable : (Action.last (describeParameters sql connection)).Usable)
    (names : prepared.Names statement body)
    (laidOut : DescribeResponse.LaidOut connection.session.order types body) :
    let after := Action.last (describeParameters sql connection)
    after.orphans = [] ∧ ∃ reply, prepared.Freed statement reply after ∧
      describeParameters sql connection =
        ofExcept (reply.check connection.version connection.codec >>= fun _ => .ok types) after := by
  have parsed : Login.parse (DescribeResponse.read connection.session.order)
      (connection.session.order.u32 statement ++ body) = .ok ⟨statement, types⟩ :=
    DescribeResponse.parse_read_eq_ok.mpr ⟨rfl, laidOut⟩
  have continued : describeParameters sql connection =
      (freeStatement statement >>= fun _ => ofExcept (.ok types))
        (connection.settled prepared.channel) := by
    rw [describeParameters_of_names names, parsed]
    rfl
  rw [continued] at usable ⊢
  obtain ⟨reply, channel, answered, ended⟩ := freeStatement_then_of_usable rfl usable
  rw [ended, last_ofExcept]
  exact ⟨rfl, reply, prepared.freed_of_roundTrip answered, rfl⟩

/-- Behind an answer that cannot be read nothing is sent. -/
theorem kept_of_not_laidOut {prepared : Prepared connection sql} {statement : UInt32}
    {body : Bytes} (names : prepared.Names statement body)
    (misread : ∀ types, ¬ DescribeResponse.LaidOut connection.session.order types body) :
    let after := Action.last (describeParameters sql connection)
    after.orphans = [] ∧ prepared.Kept after ∧
      ∃ error, describeParameters sql connection = .error (.failed error) after := by
  rw [describeParameters_of_names names]
  cases parsed : Login.parse (DescribeResponse.read connection.session.order)
    (connection.session.order.u32 statement ++ body) with
  | error error => exact ⟨rfl, prepared.kept, error, rfl⟩
  | ok described =>
    exact absurd (DescribeResponse.parse_read_eq_ok.mp parsed).2 (misread described.types)

/-- A description releases the statement that its answer names. -/
theorem releases_of_names {prepared : Prepared connection sql} {statement : UInt32} {body : Bytes}
    (usable : (Action.last (describeParameters sql connection)).Usable)
    (names : prepared.Names statement body) :
    prepared.Releases statement body (describeParameters sql connection) := by
  by_cases readable : ∃ types, DescribeResponse.LaidOut connection.session.order types body
  · obtain ⟨types, laidOut⟩ := readable
    obtain ⟨empty, reply, freed, _⟩ := freed_of_laidOut usable names laidOut
    exact {
      orphans_eq := empty
      freed_iff := iff_of_true ⟨reply, freed⟩ ⟨types, laidOut⟩
      of_laidOut := fun _ laidOut' => (freed_of_laidOut usable names laidOut').2
      of_not_laidOut := fun misread => absurd laidOut (misread types) }
  · have misread := not_exists.mp readable
    obtain ⟨empty, kept, failed⟩ := kept_of_not_laidOut names misread
    exact {
      orphans_eq := empty
      freed_iff := iff_of_false (fun ⟨reply, freed⟩ => kept.not_freed statement reply freed) readable
      of_laidOut := fun types laidOut => absurd laidOut (misread types)
      of_not_laidOut := fun _ => ⟨kept, failed⟩ }

/-- A connection that stays usable through a description was answered. If the answer names a
statement, exactly one request frees it before the call ends, with the types or with an error, when
what follows its number describes parameters of known types. When it does not, the call fails, no
request frees the statement, and it is not left to be freed later. -/
theorem description_frees_readable_statement (connection : Connection) (sql : String)
    (usable : (Action.last (describeParameters sql connection)).Usable) :
    Nonempty (Prepared connection sql) ∧
      ∀ (prepared : Prepared connection sql) (statement : UInt32) (body : Bytes),
        prepared.Names statement body →
        prepared.Releases statement body (describeParameters sql connection) := by
  constructor
  · exact nonempty_prepared usable
  · intro prepared statement body names
    exact releases_of_names usable names

/-- A connection on which a description is answered by a type of this code for the one parameter of
statement 5. The server is about to confirm that a statement is freed. -/
def describing (code : UInt8) : Connection :=
  facing
    [⟨⟨28, 5, 0, 0, 0, 0, 0, 1⟩, 0, [0, 0, 0, 5, 0, 1, 0, 0, code, 0, 0, 0], rfl⟩,
      ⟨⟨16, 13, 0, 0, 0, 0, 0, 2⟩, 0, [], rfl⟩]

/-- The description of a type that no code stands for leaves its statement with the server, though
the connection stays usable and the server would confirm that the statement is freed. -/
theorem unknown_type_frees_nothing :
    ∃ prepared : Prepared (describing 16) "x",
      prepared.Names 5 [0, 1, 0, 0, 16, 0, 0, 0] ∧
      (Action.last (describeParameters "x" (describing 16))).Usable ∧
      (Action.last (describeParameters "x" (describing 16))).orphans = [] ∧
      prepared.Kept (Action.last (describeParameters "x" (describing 16))) ∧
      (∀ reply,
        ¬ prepared.Freed 5 reply (Action.last (describeParameters "x" (describing 16)))) ∧
      ∃ reply channel, roundTrip (.free 5) prepared.channel = .ok reply channel := by
  have usable : (Action.last (describeParameters "x" (describing 16))).channel.inFlight =
      false := by
    decide +kernel
  have answered : (Action.outcome (roundTrip ((describing 16).prepareRequest "x")
      (describing 16).channel)).toOption =
        some ⟨⟨28, 5, 0, 0, 0, 0, 0, 1⟩, [0, 0, 0, 5, 0, 1, 0, 0, 16, 0, 0, 0]⟩ := by
    decide +kernel
  have confirmed : (Action.outcome (roundTrip (.free 5) (Action.last (roundTrip
      ((describing 16).prepareRequest "x") (describing 16).channel)))).toOption =
        some ⟨⟨16, 13, 0, 0, 0, 0, 0, 2⟩, []⟩ := by
    decide +kernel
  let prepared : Prepared (describing 16) "x" := .ofOutcome rfl answered
  have names : prepared.Names 5 [0, 1, 0, 0, 16, 0, 0, 0] := ⟨rfl, rfl⟩
  have misread : ∀ types, ¬ DescribeResponse.LaidOut .big types [0, 1, 0, 0, 16, 0, 0, 0] := by
    intro types laidOut
    have read : Login.parse (DescribeResponse.read .big)
        (ByteOrder.big.u32 5 ++ [0, 1, 0, 0, 16, 0, 0, 0]) = .ok ⟨5, types⟩ :=
      DescribeResponse.parse_read_eq_ok.mpr ⟨rfl, laidOut⟩
    cases read
  have released := releases_of_names usable names
  obtain ⟨kept, _⟩ := released.of_not_laidOut misread
  exact ⟨prepared, names, usable, released.orphans_eq, kept, kept.not_freed 5, _, _,
    Action.eq_ok_of_outcome confirmed⟩

/-- The description of a whole number. -/
theorem description_frees_readable_statement_integer :
    (Action.last (describeParameters "x" (describing 1))).Usable ∧
      ∃ prepared : Prepared (describing 1) "x", prepared.Names 5 [0, 1, 0, 0, 1, 0, 0, 0] ∧
        ∃ reply,
          prepared.Freed 5 reply (Action.last (describeParameters "x" (describing 1))) := by
  have usable : (Action.last (describeParameters "x" (describing 1))).channel.inFlight =
      false := by
    decide +kernel
  have answered : (Action.outcome (roundTrip ((describing 1).prepareRequest "x")
      (describing 1).channel)).toOption =
        some ⟨⟨28, 5, 0, 0, 0, 0, 0, 1⟩, [0, 0, 0, 5, 0, 1, 0, 0, 1, 0, 0, 0]⟩ := by
    decide +kernel
  let prepared : Prepared (describing 1) "x" := .ofOutcome rfl answered
  have names : prepared.Names 5 [0, 1, 0, 0, 1, 0, 0, 0] := ⟨rfl, rfl⟩
  obtain ⟨_, releases⟩ := description_frees_readable_statement (describing 1) "x" usable
  have laidOut : DescribeResponse.LaidOut .big [.integer] [0, 1, 0, 0, 1, 0, 0, 0] :=
    ⟨by decide, [0, 0], [0, 0, 0], [], rfl, rfl, rfl⟩
  have released := releases prepared 5 _ names
  exact ⟨usable, prepared, names, released.freed_iff.mpr ⟨_, laidOut⟩⟩

end Connection
end SqlWire
