import SqlWire.Frame
import SqlWire.Transport

/-!
# Channels of frames

A channel sends requests as numbered frames over a transport and reads the frames that answer them.
Frames of other requests are passed over, and the payloads of a cut answer are joined. While a round
trip is under way the channel is marked; when it ends without an answer the mark stays, and the
channel refuses every later round trip, because the next frame might begin anywhere.
-/
namespace SqlWire

/-- A transport with the state of the framing. -/
structure Channel where
  /-- The transport. -/
  transport : Transport
  /-- Byte order of the session. -/
  order : ByteOrder
  /-- Protocol version of the session. -/
  version : UInt8
  /-- Number of the last request. -/
  requestCount : UInt32
  /-- Address of the client, as the server is told. -/
  localAddress : String
  /-- Whether a round trip was begun and did not end with an answer. -/
  inFlight : Bool

namespace Channel

/-- A computation on a channel. -/
abbrev Action := EStateM Interrupt Channel

/-- A channel before the first request. -/
def ofTransport (transport : Transport) (localAddress : String) : Channel :=
  ⟨transport, .little, 0, 0, localAddress, false⟩

/-- Fail with an error. -/
def fail {α : Type} (error : Error) : Action α := throw (.failed error)

/-- The result of a computation without effects. -/
def ofExcept {α : Type} : Except Error α → Action α
  | .ok value => pure value
  | .error error => fail error

/-- Work on the transport. -/
def onTransport {α : Type} (action : Transport.Action α) : Action α := fun channel =>
  match action channel.transport with
  | .ok value transport => .ok value { channel with transport }
  | .error interrupt transport => .error interrupt { channel with transport }

/-- Send bytes outside any frame. -/
def sendRaw (bytes : Bytes) : Action Unit := onTransport (Transport.send bytes)

/-- Receive bytes outside any frame. -/
def readRaw (count : Nat) : Action Bytes := onTransport (Transport.read count)

/-- Send a request under the next number, and return that number. A request that cannot be written
uses its number up. -/
def send (request : Request) : Action UInt32 := do
  modify fun channel => { channel with requestCount := channel.requestCount + 1 }
  let channel ← get
  let frame ← ofExcept (request.encode channel.order channel.version channel.requestCount)
  sendRaw frame
  pure channel.requestCount

/-- The packet of a complete frame. -/
def packetOf (order : ByteOrder) (frame : Bytes) : Except Error Packet :=
  match Header.read order frame with
  | .ok header payload => .ok ⟨header, payload⟩
  | .error error _ => .error error

/-- Receive one frame: its length, and then the rest of it. -/
def readPacket : Action Packet := do
  let word ← readRaw 4
  let order := (← get).order
  let size := (order.ofU32 word).toNat
  if size < Header.byteSize then fail (.protocol (.shortFrame size))
  else
    let rest ← readRaw (size - 4)
    ofExcept (packetOf order (word ++ rest))

/-- Bytes from the peer that were not read yet. -/
def unread (channel : Channel) : Nat := channel.transport.inbound.length

/-- Receiving takes exactly the bytes asked for. -/
theorem unread_of_readRaw {count : Nat} {bytes : Bytes} {before after : Channel}
    (h : readRaw count before = .ok bytes after) : after.unread + count = before.unread := by
  unfold readRaw onTransport at h
  split at h
  · rename_i read
    cases h
    obtain ⟨split, length⟩ := Transport.inbound_of_read read
    simp only [unread, split, List.length_append, length]
    omega
  · cases h

/-- A result without effects succeeds when the computation did, and leaves the channel as it was. -/
theorem ofExcept_eq_ok {α : Type} {result : Except Error α} {value : α} {before after : Channel} :
    ofExcept result before = .ok value after ↔ result = .ok value ∧ before = after := by
  cases result with
  | ok _ => simp [ofExcept]
  | error _ => simp [ofExcept, fail]

/-- A frame that was received takes bytes. -/
theorem unread_of_readPacket {packet : Packet} {before after : Channel}
    (h : readPacket before = .ok packet after) : after.unread < before.unread := by
  obtain ⟨word, middle, first, h⟩ := Action.bind_eq_ok.mp h
  obtain ⟨channel, same, got, h⟩ := Action.bind_eq_ok.mp h
  obtain ⟨rfl, rfl⟩ := Action.get_eq_ok.mp got
  have taken := unread_of_readRaw first
  split at h
  · exact absurd h Action.throw_ne_ok
  · obtain ⟨rest, last, second, h⟩ := Action.bind_eq_ok.mp h
    have more := unread_of_readRaw second
    rw [← (ofExcept_eq_ok.mp h).2]
    omega

/-- Go on reading the answer to the current request after frames that gave a header and a
payload. -/
def readResponseFrom (first : Option Header) (payload : Bytes) (channel : Channel) :
    EStateM.Result Interrupt Channel Packet :=
  match _ : readPacket channel with
  | .error interrupt after => .error interrupt after
  | .ok packet after =>
    if packet.header.requestCount ≠ after.requestCount then readResponseFrom first payload after
    else
      let header := first.getD packet.header
      let joined := payload ++ packet.payload
      if packet.header.hasMore then readResponseFrom (some header) joined after
      else .ok ⟨header, joined⟩ after
termination_by channel.unread
decreasing_by all_goals exact unread_of_readPacket ‹_›

/-- Receive the answer to the current request: the first header of its frames and all their
payloads. -/
def readResponse : Action Packet := readResponseFrom none []

/-- Send a request and receive its answer. -/
def roundTrip (request : Request) : Action Packet := do
  if (← get).inFlight then fail (.connection .unusable)
  else
    modify fun channel => { channel with inFlight := true }
    let _ ← send request
    let packet ← readResponse
    modify fun channel => { channel with inFlight := false }
    pure packet

/-- Sending takes no bytes from the peer. -/
theorem unread_of_send {request : Request} {count : UInt32} {before after : Channel}
    (h : send request before = .ok count after) : after.unread = before.unread := by
  obtain ⟨_, counted, counting, h⟩ := Action.bind_eq_ok.mp h
  obtain ⟨channel, same, got, h⟩ := Action.bind_eq_ok.mp h
  obtain ⟨rfl, rfl⟩ := Action.get_eq_ok.mp got
  obtain ⟨frame, encoded, encoding, h⟩ := Action.bind_eq_ok.mp h
  obtain ⟨_, last, sending, h⟩ := Action.bind_eq_ok.mp h
  obtain ⟨_, rfl⟩ := Action.pure_eq_ok.mp h
  rw [← (ofExcept_eq_ok.mp encoding).2] at sending
  rw [← Action.modify_eq_ok.mp counting] at sending
  unfold sendRaw onTransport at sending
  split at sending
  · rename_i sent
    cases sending
    simp only [unread, Transport.inbound_of_send sent]
  · cases sending

/-- What is left of an answer takes bytes. -/
theorem unread_of_readResponseFrom {first : Option Header} {payload : Bytes} {packet : Packet}
    {before after : Channel} (h : readResponseFrom first payload before = .ok packet after) :
    after.unread < before.unread := by
  fun_induction readResponseFrom first payload before with
  | case1 => cases h
  | case2 first payload before packet middle received other ih =>
    exact Nat.lt_trans (ih h) (unread_of_readPacket received)
  | case3 first payload before packet middle received same header joined more ih =>
    exact Nat.lt_trans (ih h) (unread_of_readPacket received)
  | case4 first payload before packet middle received same header joined last =>
    cases h
    exact unread_of_readPacket received

/-- An answer that was received takes bytes. -/
theorem unread_of_roundTrip {request : Request} {packet : Packet} {before after : Channel}
    (h : roundTrip request before = .ok packet after) : after.unread < before.unread := by
  obtain ⟨channel, same, got, h⟩ := Action.bind_eq_ok.mp h
  obtain ⟨rfl, rfl⟩ := Action.get_eq_ok.mp got
  split at h
  · exact absurd h Action.throw_ne_ok
  · obtain ⟨_, marked, marking, h⟩ := Action.bind_eq_ok.mp h
    obtain ⟨_, sent, sending, h⟩ := Action.bind_eq_ok.mp h
    obtain ⟨received, answered, receiving, h⟩ := Action.bind_eq_ok.mp h
    obtain ⟨_, cleared, clearing, h⟩ := Action.bind_eq_ok.mp h
    obtain ⟨_, rfl⟩ := Action.pure_eq_ok.mp h
    have taken := unread_of_readResponseFrom receiving
    rw [unread_of_send sending, ← Action.modify_eq_ok.mp marking] at taken
    rw [← Action.modify_eq_ok.mp clearing]
    exact taken

/-- End the exchange. -/
def shutdown : Action Unit := onTransport Transport.shutdown

end Channel
end SqlWire
