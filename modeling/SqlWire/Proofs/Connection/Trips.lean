import SqlWire.Connection
import SqlWire.Proofs.RoundTrip

/-!
# What a usable connection has sent

A connection that can still be used has had an answer to everything it sent. So a request on it is a
list of answered round trips: one for each statement that was left to be freed, and then its own
(`request_eq_ok`, `request_of_usable`). What a list of answered round trips sends is known to the
byte (`Answered.sent`).
-/
namespace SqlWire

namespace Channel

/-- A request and the packet that answered it. -/
structure Trip where
  /-- The request. -/
  request : Request
  /-- The answer. -/
  packet : Packet

/-- Between two states of a channel these round trips were made, one after the other and no others,
and each was answered. -/
inductive Answered : Channel → List Trip → Channel → Prop where
  /-- No round trip. -/
  | nil (channel : Channel) : Answered channel [] channel
  /-- A round trip in front of others. -/
  | cons {before middle after : Channel} {trip : Trip} {rest : List Trip} :
      roundTrip trip.request before = .ok trip.packet middle → Answered middle rest after →
      Answered before (trip :: rest) after

/-- Between two states of a channel exactly these requests were sent, each in one frame under the
next number. -/
def Sent (before after : Channel) (requests : List Request) : Prop :=
  ∃ written : List Bytes,
    Consecutive before.order before.version before.requestCount requests written ∧
    after.transport.sent = before.transport.sent ++ written.flatten

namespace Answered

variable {before middle after : Channel} {trips : List Trip}

/-- One round trip. -/
theorem single {request : Request} {packet : Packet}
    (answered : roundTrip request before = .ok packet after) :
    Answered before [⟨request, packet⟩] after := .cons answered (.nil after)

/-- Round trips in front of others. -/
theorem append {others : List Trip} (first : Answered before trips middle)
    (second : Answered middle others after) : Answered before (trips ++ others) after := by
  induction first with
  | nil => exact second
  | cons answered _ ih => exact .cons answered (ih second)

/-- Round trips in front of others end in between. -/
theorem split {others : List Trip} (answered : Answered before (trips ++ others) after) :
    ∃ middle, Answered before trips middle ∧ Answered middle others after := by
  induction trips generalizing before with
  | nil => exact ⟨before, .nil before, answered⟩
  | cons trip rest ih =>
    cases answered with
    | cons first answered =>
      obtain ⟨middle, front, back⟩ := ih answered
      exact ⟨middle, .cons first front, back⟩

/-- One answered round trip is one. -/
theorem of_single {trip : Trip} (answered : Answered before [trip] after) :
    roundTrip trip.request before = .ok trip.packet after := by
  cases answered with
  | cons first rest =>
    cases rest
    exact first

/-- Answered round trips send their requests and nothing else. -/
theorem sent (answered : Answered before trips after) :
    before.Sent after (trips.map Trip.request) := by
  induction answered with
  | nil channel => exact ⟨[], .nil _, by simp⟩
  | cons answered _ ih =>
    obtain ⟨_, frame, answer, rest, encoded, _, _, _, rfl⟩ := roundTrip_eq_ok.mp answered
    obtain ⟨written, consecutive, sent⟩ := ih
    refine ⟨frame :: written, .cons encoded consecutive, ?_⟩
    rw [sent]
    simp

/-- Answered round trips behind the freeing of some statements send their requests behind those that
free them. -/
theorem sent_behind {frees : List Trip} {statements : List UInt32}
    (freed : frees.map Trip.request = statements.map Request.free)
    (answered : Answered before (frees ++ trips) after) :
    before.Sent after (statements.map Request.free ++ trips.map Trip.request) := by
  have sent := answered.sent
  rwa [List.map_append, freed] at sent

/-- Answered round trips leave the channel as marked as it was. -/
theorem inFlight_eq (answered : Answered before trips after) :
    after.inFlight = before.inFlight := by
  induction answered with
  | nil channel => rfl
  | cons answered _ ih =>
    obtain ⟨_, _, _, _, _, _, _, _, rfl⟩ := roundTrip_eq_ok.mp answered
    exact ih

end Answered
end Channel

namespace Connection

open Channel

/-- Whether every round trip on the connection was answered, so that it takes another one. -/
def Usable (connection : Connection) : Prop := connection.channel.inFlight = false

/-- The connection with its channel after other round trips, and with nothing left to be freed. -/
def settled (connection : Connection) (channel : Channel) : Connection :=
  { connection with channel, orphans := [] }

/-- Work on the channel that succeeds gives its result. -/
theorem onChannel_of_ok {α : Type} {action : Channel.Action α} {value : α} {before : Connection}
    {channel : Channel} (done : action before.channel = .ok value channel) :
    onChannel action before = .ok value { before with channel } := by
  simp only [onChannel, done]

/-- Work on the channel that stops does so for its reason. -/
theorem onChannel_of_error {α : Type} {action : Channel.Action α} {stop : Interrupt}
    {before : Connection} {channel : Channel}
    (stopped : action before.channel = .error stop channel) :
    onChannel action before = .error stop { before with channel } := by
  simp only [onChannel, stopped]

/-- A round trip that was not answered leaves no usable connection. -/
theorem not_usable_of_error {request : Request} {stop : Interrupt} {before : Connection}
    {channel : Channel} (stopped : roundTrip request before.channel = .error stop channel) :
    ¬ ({ before with channel } : Connection).Usable := by
  intro usable
  have marked : channel.inFlight = true := inFlight_of_roundTrip_eq_error stopped
  have unmarked : channel.inFlight = false := usable
  rw [marked] at unmarked
  cases unmarked

/-- An exchange that is answered gives what the answer says. -/
theorem exchange_of_ok {request : Request} {packet : Packet} {before : Connection}
    {channel : Channel} (answered : roundTrip request before.channel = .ok packet channel) :
    exchange request before =
      ofExcept (packet.check before.version before.codec) { before with channel } := by
  rw [exchange, Action.bind_of_ok (onChannel_of_ok answered),
    Action.bind_of_ok (Action.get_apply _)]
  rfl

/-- An exchange after which the connection is usable was answered. -/
theorem exchange_of_usable {request : Request} {before : Connection}
    (usable : (Action.last (exchange request before)).Usable) :
    ∃ packet channel, roundTrip request before.channel = .ok packet channel := by
  cases made : roundTrip request before.channel with
  | ok packet channel => exact ⟨packet, channel, rfl⟩
  | error stop channel =>
    rw [exchange, Action.bind_of_error (onChannel_of_error made)] at usable
    exact absurd usable (not_usable_of_error made)

/-- Statements are freed by round trips that are all answered. -/
theorem freeAll_eq_ok {statements : List UInt32} {before after : Connection} :
    freeAll statements before = .ok () after ↔
      ∃ trips channel, trips.map Trip.request = statements.map Request.free ∧
        Answered before.channel trips channel ∧ after = { before with channel } := by
  induction statements generalizing before with
  | nil =>
    simp only [freeAll, Action.pure_eq_ok, true_and, List.map_nil, List.map_eq_nil_iff]
    constructor
    · rintro rfl
      exact ⟨[], before.channel, rfl, .nil _, rfl⟩
    · rintro ⟨_, _, rfl, answered, rfl⟩
      cases answered
      rfl
  | cons statement rest ih =>
    simp only [freeAll, Action.bind_eq_ok, ih]
    constructor
    · rintro ⟨packet, _, made, trips, channel, same, answered, rfl⟩
      obtain ⟨_, first, rfl⟩ := onChannel_eq_ok made
      exact ⟨⟨.free statement, packet⟩ :: trips, channel, by simp [same], .cons first answered, rfl⟩
    · rintro ⟨trips, channel, same, answered, rfl⟩
      cases answered with
      | nil => cases same
      | @cons _ middle _ trip trips first answered =>
        obtain ⟨head, tail⟩ := List.cons.inj same
        rw [head] at first
        exact ⟨trip.packet, { before with channel := middle }, onChannel_of_ok first, trips, channel,
          tail, answered, rfl⟩

/-- When statements were freed and the connection is usable, all of them were. -/
theorem freeAll_of_usable {statements : List UInt32} {before : Connection}
    (usable : (Action.last (freeAll statements before)).Usable) :
    ∃ after, freeAll statements before = .ok () after := by
  induction statements generalizing before with
  | nil => exact ⟨before, rfl⟩
  | cons statement rest ih =>
    cases made : roundTrip (.free statement) before.channel with
    | ok packet channel =>
      rw [freeAll, Action.bind_of_ok (onChannel_of_ok made)] at usable ⊢
      exact ih usable
    | error stop channel =>
      rw [freeAll, Action.bind_of_error (onChannel_of_error made)] at usable
      exact absurd usable (not_usable_of_error made)

/-- Freeing the statements that were left takes them from the list and frees each of them. -/
theorem freeOrphans_eq (before : Connection) :
    freeOrphans before = freeAll before.orphans { before with orphans := [] } := by
  rw [freeOrphans, Action.bind_of_ok (Action.get_apply before),
    Action.bind_of_ok (Action.modify_apply _ before)]

/-- A request that is answered, behind the freeing of the statements that were left, gives what its
answer says. -/
theorem request_of_answered {wanted : Request} {packet : Packet} {before : Connection}
    {channel : Channel} {frees : List Trip}
    (freed : frees.map Trip.request = before.orphans.map Request.free)
    (answered : Answered before.channel (frees ++ [⟨wanted, packet⟩]) channel) :
    request wanted before =
      ofExcept (packet.check before.version before.codec) (before.settled channel) := by
  obtain ⟨middle, freeing, last⟩ := answered.split
  have emptied : freeOrphans before = .ok () (before.settled middle) := by
    rw [freeOrphans_eq]
    exact freeAll_eq_ok.mpr ⟨frees, middle, freed, freeing, rfl⟩
  rw [request, Action.bind_of_ok emptied]
  exact exchange_of_ok last.of_single

/-- A request that gives a payload was answered, and so was the freeing of every statement that was
left. -/
theorem answered_of_request_eq_ok {wanted : Request} {payload : Bytes} {before after : Connection}
    (h : request wanted before = .ok payload after) :
    ∃ frees packet channel, frees.map Trip.request = before.orphans.map Request.free ∧
      Answered before.channel (frees ++ [⟨wanted, packet⟩]) channel := by
  obtain ⟨_, middle, emptied, h⟩ := Action.bind_eq_ok.mp h
  rw [freeOrphans_eq] at emptied
  obtain ⟨frees, _, freed, freeing, rfl⟩ := freeAll_eq_ok.mp emptied
  obtain ⟨packet, _, made, _⟩ := Action.bind_eq_ok.mp h
  obtain ⟨channel, answered, _⟩ := onChannel_eq_ok made
  exact ⟨frees, packet, channel, freed, freeing.append (.single answered)⟩

/-- When a connection is usable after a request and whatever followed it, the request was answered,
and so was the freeing of every statement that was left. -/
theorem request_of_usable {α : Type} {wanted : Request} {next : Bytes → Action α}
    {before : Connection} (usable : (Action.last ((request wanted >>= next) before)).Usable) :
    ∃ frees packet channel, frees.map Trip.request = before.orphans.map Request.free ∧
      Answered before.channel (frees ++ [⟨wanted, packet⟩]) channel := by
  cases asked : request wanted before with
  | ok payload after => exact answered_of_request_eq_ok asked
  | error stop after =>
    rw [Action.bind_of_error asked, Action.last_error] at usable
    cases freeing : freeOrphans before with
    | error stop' after' =>
      -- Freeing only stops on a connection that is not usable any more.
      rw [request, Action.bind_of_error freeing] at asked
      cases asked
      have ended : Action.last (freeAll before.orphans { before with orphans := [] }) = after := by
        rw [← freeOrphans_eq, freeing, Action.last_error]
      rw [← ended] at usable
      obtain ⟨_, done⟩ := freeAll_of_usable usable
      rw [← freeOrphans_eq, freeing] at done
      cases done
    | ok _ middle =>
      rw [request, Action.bind_of_ok freeing] at asked
      rw [freeOrphans_eq] at freeing
      obtain ⟨frees, _, freed, answered, rfl⟩ := freeAll_eq_ok.mp freeing
      rw [← Action.last_error (α := Bytes) stop after, ← asked] at usable
      obtain ⟨packet, channel, last⟩ := exchange_of_usable usable
      exact ⟨frees, packet, channel, freed, answered.append (.single last)⟩

/-- An execution with bound parameters asks the server and settles what it answers. -/
theorem execute_of_bound {sql : String} {parameters : ParameterList} {connection : Connection}
    (bound : parameters.checkAllBound = .ok ()) :
    execute sql parameters connection =
      (request (connection.executeRequest sql parameters) >>= settle parameters) connection := by
  have passed : ofExcept parameters.checkAllBound connection = .ok () connection := by
    rw [bound]
    rfl
  rw [execute, Action.bind_of_ok passed, Action.bind_of_ok (Action.get_apply connection)]

/-- A connection on which nothing was sent yet, to a server that is about to send these frames. -/
def facing (answers : List Frame) : Connection :=
  { channel := { ofTransport (.ofInbound (Frame.join .big answers)) "" with order := .big }
    session := ⟨23, 0, .big, .utf8, 0, 0, 0, [], 0, ⟨List.replicate 32 1, rfl⟩⟩
    params := .ofAddress "" 0 "" ""
    orphans := [] }

end Connection
end SqlWire
