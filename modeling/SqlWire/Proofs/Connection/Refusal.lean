import SqlWire.Proofs.Connection.Trips

/-!
# Requests that cannot be written

A request with too many parameters is refused before a byte of it is sent. But the channel was
marked by then, and the mark is only taken away behind an answer. So a channel that was in step with
its peer, and is so still, refuses everything from then on
(`unwritable_request_ends_connection`).
-/
namespace SqlWire

namespace Channel

/-- A round trip whose request cannot be written makes no call, and leaves the channel marked. -/
theorem roundTrip_of_write_eq_error {request : Request} {buffer : WriteBuffer} {error : Error}
    {channel : Channel} (refused : request.write buffer = .error error)
    (idle : channel.inFlight = false) :
    roundTrip request channel =
      .error (.failed error)
        { channel with requestCount := channel.requestCount + 1, inFlight := true } := by
  have unsent : send request { channel with inFlight := true } =
      .error (.failed error)
        { channel with requestCount := channel.requestCount + 1, inFlight := true } :=
    send_of_encode_eq_error (Request.encode_of_write_eq_error refused _ _ _)
  rw [roundTrip_of_idle idle, Action.bind_of_error unsent]

end Channel

namespace Connection

open Channel

variable {connection : Connection}

/-- A connection that is not usable refuses every exchange and stays as it is. -/
theorem exchange_of_marked (marked : connection.channel.inFlight = true) (request : Request) :
    exchange request connection = .error (.failed (.connection .unusable)) connection := by
  have refused : onChannel (roundTrip request) connection =
      .error (.failed (.connection .unusable)) connection :=
    onChannel_of_error (roundTrip_of_inFlight marked)
  rw [exchange, Action.bind_of_error refused]

/-- A connection that is not usable refuses every request. It forgets the statements that were left
to be freed, and otherwise stays as it is. -/
theorem request_of_marked (marked : connection.channel.inFlight = true) (wanted : Request) :
    request wanted connection =
      .error (.failed (.connection .unusable)) { connection with orphans := [] } := by
  have marked' : ({ connection with orphans := [] } : Connection).channel.inFlight = true := marked
  cases left : connection.orphans with
  | nil =>
    have freed : freeOrphans connection = .ok () { connection with orphans := [] } := by
      rw [freeOrphans_eq, left]
      rfl
    rw [request, Action.bind_of_ok freed]
    exact exchange_of_marked marked' wanted
  | cons statement rest =>
    have refused : onChannel (roundTrip (.free statement)) { connection with orphans := [] } =
        .error (.failed (.connection .unusable)) { connection with orphans := [] } :=
      onChannel_of_error (roundTrip_of_inFlight marked')
    have stopped : freeOrphans connection =
        .error (.failed (.connection .unusable)) { connection with orphans := [] } := by
      rw [freeOrphans_eq, left, freeAll, Action.bind_of_error refused]
    rw [request, Action.bind_of_error stopped]

/-- Freeing the statements that were left leaves a usable connection usable. -/
theorem usable_of_freeOrphans {freed : Connection} (usable : connection.Usable)
    (freeing : freeOrphans connection = .ok () freed) : freed.Usable := by
  rw [freeOrphans_eq] at freeing
  obtain ⟨trips, channel, _, answered, rfl⟩ := freeAll_eq_ok.mp freeing
  exact answered.inFlight_eq.trans usable

/-- The connection after a request that used up its number, was not sent and is waited for. -/
def stranded (connection : Connection) : Connection :=
  { connection with
    channel :=
      { connection.channel with
        requestCount := connection.channel.requestCount + 1
        inFlight := true } }

/-- A request that cannot be written is an error behind the freeing of the statements that were
left. -/
theorem request_of_write_eq_error {wanted : Request} {buffer : WriteBuffer} {error : Error}
    {freed : Connection} (refused : wanted.write buffer = .error error)
    (usable : connection.Usable) (freeing : freeOrphans connection = .ok () freed) :
    request wanted connection = .error (.failed error) freed.stranded := by
  have unsent : onChannel (roundTrip wanted) freed = .error (.failed error) freed.stranded :=
    onChannel_of_error (roundTrip_of_write_eq_error refused (usable_of_freeOrphans usable freeing))
  rw [request, Action.bind_of_ok freeing, exchange, Action.bind_of_error unsent]

/-- A request that cannot be written is an execution with too many parameters. On a channel that
awaits no answer it is an error before any call is made, and yet every later round trip is refused
and makes no call either. On a connection that is an error of the execution, and every later request
is refused. -/
theorem unwritable_request_ends_connection {wanted : Request} {buffer : WriteBuffer}
    {error : Error} (refused : wanted.write buffer = .error error) :
    (∃ statement sql fetchSize slots, wanted = .execute statement sql fetchSize slots ∧
      maxParameters < slots.length ∧ error = .parameter (.tooMany slots.length)) ∧
    (∀ channel : Channel, channel.inFlight = false →
      let after := { channel with requestCount := channel.requestCount + 1, inFlight := true }
      roundTrip wanted channel = .error (.failed error) after ∧
      ∀ later : List Turn,
        (∀ outcome ∈ (run later after).outcomes,
          outcome = .error (.failed (.connection .unusable))) ∧
        (run later after).last.transport.calls = channel.transport.calls ∧
        (run later after).last.transport.sent = channel.transport.sent) ∧
    ∀ connection freed : Connection, connection.Usable →
      freeOrphans connection = .ok () freed →
      request wanted connection = .error (.failed error) freed.stranded ∧
      (∀ (sql : String) (parameters : ParameterList),
        wanted = connection.executeRequest sql parameters → parameters.checkAllBound = .ok () →
        execute sql parameters connection = .error (.failed error) freed.stranded) ∧
      ∀ next : Request, request next freed.stranded =
        .error (.failed (.connection .unusable)) freed.stranded := by
  refine ⟨Request.write_eq_error.mp refused, ?_, ?_⟩
  · intro channel idle after
    have marked : after.inFlight = true := rfl
    refine ⟨roundTrip_of_write_eq_error refused idle, fun later => ?_⟩
    obtain ⟨outcomes, _, _, calls, sent, _⟩ := run_of_inFlight later marked
    exact ⟨outcomes, calls, sent⟩
  · intro connection freed usable freeing
    have asked := request_of_write_eq_error refused usable freeing
    refine ⟨asked, ?_, ?_⟩
    · rintro sql parameters rfl bound
      rw [execute_of_bound bound, Action.bind_of_error asked]
    · intro next
      have empty : freed.orphans = [] := by
        rw [freeOrphans_eq] at freeing
        obtain ⟨_, _, _, _, rfl⟩ := freeAll_eq_ok.mp freeing
        rfl
      have marked : freed.stranded.channel.inFlight = true := rfl
      rw [request_of_marked marked]
      simp [stranded, empty]

/-- One more parameter than can be counted, each bound to null. -/
def crowd (codec : Codec) : ParameterList :=
  ⟨List.replicate (maxParameters + 1) (Slot.bind default .integer .null []), [], codec⟩

/-- All of these parameters are bound. -/
theorem checkAllBound_crowd (codec : Codec) : (crowd codec).checkAllBound = .ok () := by
  have bound : (crowd codec).slots.findIdx? (! ·.bound) = none := by
    rw [List.findIdx?_eq_none_iff]
    intro slot member
    rw [List.eq_of_mem_replicate member]
    rfl
  rw [ParameterList.checkAllBound, bound]

/-- An execution with these parameters cannot be written. -/
theorem write_executeRequest_crowd (connection : Connection) (sql : String)
    (buffer : WriteBuffer) :
    (connection.executeRequest sql (crowd connection.codec)).write buffer =
      .error (.parameter (.tooMany (maxParameters + 1))) := by
  have size : (crowd connection.codec).slots.length = maxParameters + 1 := List.length_replicate
  refine Request.write_eq_error.mpr ⟨_, _, _, _, rfl, ?_, ?_⟩ <;> simp [size]

/-- A connection to a server that is about to confirm a commit, as the second request. -/
def confirming : Connection := facing [⟨⟨16, 9, 0, 0, 0, 0, 0, 2⟩, 0, [], rfl⟩]

/-- An execution that cannot be written sends nothing and makes no call, and the connection is
unusable behind it. The commit is refused that the server would confirm without the mark. -/
theorem unwritable_execution_refuses_commit :
    confirming.Usable ∧ (crowd confirming.codec).checkAllBound = .ok () ∧
      ∃ after,
        execute "x" (crowd confirming.codec) confirming =
          .error (.failed (.parameter (.tooMany (maxParameters + 1)))) after ∧
        after.channel.transport.sent = [] ∧ after.channel.transport.calls = 0 ∧
        ¬ after.Usable ∧ commit after = .error (.failed (.connection .unusable)) after ∧
        (Action.outcome (commit
          { after with channel := { after.channel with inFlight := false } })).toOption =
            some () := by
  have asked : request (confirming.executeRequest "x" (crowd confirming.codec)) confirming =
      .error (.failed (.parameter (.tooMany (maxParameters + 1)))) confirming.stranded :=
    request_of_write_eq_error (write_executeRequest_crowd confirming "x" (.empty .big)) rfl rfl
  have refused : request .commit confirming.stranded =
      .error (.failed (.connection .unusable)) confirming.stranded := request_of_marked rfl .commit
  refine ⟨rfl, checkAllBound_crowd _, confirming.stranded, ?_, rfl, rfl, nofun, ?_, ?_⟩
  · rw [execute_of_bound (checkAllBound_crowd _), Action.bind_of_error asked]
  · rw [commit, Action.bind_of_error refused]
  · decide +kernel

/-- The execution with one parameter too many. -/
theorem unwritable_request_ends_connection_crowd :
    let wanted := confirming.executeRequest "x" (crowd confirming.codec)
    wanted.write (.empty .big) = .error (.parameter (.tooMany (maxParameters + 1))) ∧
      confirming.channel.inFlight = false ∧
      (run [⟨.commit, [], true, Transport.passAll, fun _ => 0⟩]
        (Action.last (roundTrip wanted confirming.channel))).last.transport.sent = [] ∧
      confirming.Usable ∧ freeOrphans confirming = .ok () confirming ∧
      execute "x" (crowd confirming.codec) confirming =
        .error (.failed (.parameter (.tooMany (maxParameters + 1)))) confirming.stranded ∧
      request .rollback confirming.stranded =
        .error (.failed (.connection .unusable)) confirming.stranded := by
  intro wanted
  have refused := write_executeRequest_crowd confirming "x" (.empty .big)
  obtain ⟨_, onChannel, onConnection⟩ := unwritable_request_ends_connection refused
  obtain ⟨trip, later⟩ := onChannel confirming.channel rfl
  obtain ⟨_, executed, next⟩ := onConnection confirming confirming rfl rfl
  refine ⟨refused, rfl, ?_, rfl, rfl, executed "x" _ rfl (checkAllBound_crowd _), next .rollback⟩
  rw [trip]
  exact (later _).2.2

end Connection
end SqlWire
