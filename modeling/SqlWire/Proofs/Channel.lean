import SqlWire.Channel
import SqlWire.Proofs.Frame
import SqlWire.Proofs.Transport

/-!
# What a channel does to its transport

A channel that succeeds has moved its transport on by a known number of calls, and by known bytes in
either direction (`advance`). A computation that only reads sends nothing, however it ends
(`Takes`).
-/
namespace SqlWire.Channel

/-- The channel after a number of calls passed which left the peer's bytes at `rest` and sent
`given`. -/
def advance (channel : Channel) (rest given : Bytes) (count : Nat) : Channel :=
  { channel with transport := channel.transport.advance rest given count }

/-- Whether operations that are called from now on all pass. -/
def Grants (channel : Channel) (operations : List Operation) : Prop :=
  Transport.Passes channel.transport.schedule channel.transport.calls operations

/-- The two calls that send bytes. -/
def sending : List Operation := [.write, .flush]

/-- The calls that read a number of frames: two each. -/
def reading (frames : Nat) : List Operation := List.replicate (2 * frames) .read

section Advance

variable (channel : Channel) (rest given : Bytes) (count : Nat)

@[simp] theorem transport_advance :
    (channel.advance rest given count).transport =
      channel.transport.advance rest given count := rfl

@[simp] theorem order_advance : (channel.advance rest given count).order = channel.order := rfl

@[simp] theorem version_advance :
    (channel.advance rest given count).version = channel.version := rfl

@[simp] theorem requestCount_advance :
    (channel.advance rest given count).requestCount = channel.requestCount := rfl

@[simp] theorem inFlight_advance :
    (channel.advance rest given count).inFlight = channel.inFlight := rfl

/-- Two stretches of calls are one. -/
@[simp] theorem advance_advance (rest' given' : Bytes) (count' : Nat) :
    (channel.advance rest given count).advance rest' given' count' =
      channel.advance rest' (given ++ given') (count + count') := by
  simp [advance]

/-- Operations pass behind others when all of them pass in order. -/
theorem grants_append (first second : List Operation) :
    channel.Grants (first ++ second) ↔
      channel.Grants first ∧ (channel.advance rest given first.length).Grants second :=
  Transport.passes_append

end Advance

/-- Work on the transport succeeds when it does there, and changes nothing else. -/
theorem onTransport_eq_ok {α : Type} {action : Transport.Action α} {value : α}
    {before after : Channel} :
    onTransport action before = .ok value after ↔
      ∃ transport, action before.transport = .ok value transport ∧
        after = { before with transport } := by
  unfold onTransport
  cases result : action before.transport with
  | ok value' transport =>
    simp only [EStateM.Result.ok.injEq]
    constructor
    · rintro ⟨rfl, rfl⟩
      exact ⟨transport, ⟨rfl, rfl⟩, rfl⟩
    · rintro ⟨_, ⟨rfl, rfl⟩, rfl⟩
      exact ⟨rfl, rfl⟩
  | error stop transport => simp

/-- Sending bytes succeeds exactly when both calls pass. -/
theorem sendRaw_eq_ok {bytes : Bytes} (some : bytes ≠ []) {value : Unit}
    {before after : Channel} :
    sendRaw bytes before = .ok value after ↔
      before.Grants sending ∧ after = before.advance before.transport.inbound bytes 2 := by
  simp only [sendRaw, onTransport_eq_ok, Transport.send_eq_ok some]
  constructor
  · rintro ⟨_, ⟨granted, rfl⟩, rfl⟩
    exact ⟨granted, rfl⟩
  · rintro ⟨granted, rfl⟩
    exact ⟨_, ⟨granted, rfl⟩, rfl⟩

/-- Receiving some bytes succeeds exactly when the call passes and the bytes are there. -/
theorem readRaw_eq_ok {count : Nat} (some : 0 < count) {bytes : Bytes} {before after : Channel} :
    readRaw count before = .ok bytes after ↔
      before.Grants [.read] ∧ ∃ rest, before.transport.inbound = bytes ++ rest ∧
        bytes.length = count ∧ after = before.advance rest [] 1 := by
  simp only [readRaw, onTransport_eq_ok, Transport.read_eq_ok some]
  constructor
  · rintro ⟨_, ⟨granted, rest, queued, length, rfl⟩, rfl⟩
    exact ⟨granted, rest, queued, length, rfl⟩
  · rintro ⟨granted, rest, queued, length, rfl⟩
    exact ⟨_, ⟨granted, rest, queued, length, rfl⟩, rfl⟩

/-- Sending a request that can be written is sending its frame under the next number. -/
theorem send_of_encode {request : Request} {frame : Bytes} {before : Channel}
    (encoded : request.encode before.order before.version (before.requestCount + 1) = .ok frame) :
    send request before = (do
      sendRaw frame
      pure (before.requestCount + 1) : Action UInt32)
        { before with requestCount := before.requestCount + 1 } := by
  let counted : Channel := { before with requestCount := before.requestCount + 1 }
  have written : ofExcept (request.encode counted.order counted.version counted.requestCount)
      counted = .ok frame counted := ofExcept_eq_ok.mpr ⟨encoded, rfl⟩
  rw [send, Action.bind_of_ok (Action.modify_apply _ before),
    Action.bind_of_ok (Action.get_apply counted), Action.bind_of_ok written]

/-- Sending a request that cannot be written only uses up the next number. -/
theorem send_of_encode_eq_error {request : Request} {error : Error} {before : Channel}
    (refused : request.encode before.order before.version (before.requestCount + 1) =
      .error error) :
    send request before =
      .error (.failed error) { before with requestCount := before.requestCount + 1 } := by
  let counted : Channel := { before with requestCount := before.requestCount + 1 }
  have stopped : ofExcept (request.encode counted.order counted.version counted.requestCount)
      counted = .error (.failed error) counted := by
    rw [refused]
    rfl
  rw [send, Action.bind_of_ok (Action.modify_apply _ before),
    Action.bind_of_ok (Action.get_apply counted), Action.bind_of_error stopped]

/-- A request is sent exactly when it can be written and both calls pass. It uses up the next
number. -/
theorem send_eq_ok {request : Request} {count : UInt32} {before after : Channel} :
    send request before = .ok count after ↔
      before.Grants sending ∧ ∃ frame,
        request.encode before.order before.version (before.requestCount + 1) = .ok frame ∧
        count = before.requestCount + 1 ∧
        after = { before.advance before.transport.inbound frame 2 with
          requestCount := before.requestCount + 1 } := by
  cases written : request.encode before.order before.version (before.requestCount + 1) with
  | error error => simp [send_of_encode_eq_error written]
  | ok frame =>
    have some := Request.encode_ne_nil written
    rw [send_of_encode written]
    constructor
    · intro h
      obtain ⟨_, _, sent, ended⟩ := Action.bind_eq_ok.mp h
      obtain ⟨granted, rfl⟩ := (sendRaw_eq_ok some).mp sent
      obtain ⟨rfl, rfl⟩ := Action.pure_eq_ok.mp ended
      exact ⟨granted, frame, rfl, rfl, rfl⟩
    · rintro ⟨granted, frame, encoded, rfl, rfl⟩
      cases encoded
      let counted : Channel := { before with requestCount := before.requestCount + 1 }
      have sent : sendRaw frame counted =
          .ok () (counted.advance counted.transport.inbound frame 2) :=
        (sendRaw_eq_ok some).mpr ⟨granted, rfl⟩
      exact Action.bind_of_ok sent

/-- The state that work on the transport leaves is that of the transport, and nothing else changes.
-/
theorem last_onTransport {α : Type} (action : Transport.Action α) (before : Channel) :
    Action.last (onTransport action before) =
      { before with transport := Action.last (action before.transport) } := by
  unfold onTransport
  cases action before.transport <;> rfl

/-- However sending bytes ends, those that the write gets to were sent and nothing was taken. -/
theorem moves_sendRaw (bytes : Bytes) (before : Channel) :
    before.transport.Moves (Action.last (sendRaw bytes before)).transport []
      (bytes.take (before.transport.gets bytes.length)) := by
  rw [sendRaw, last_onTransport]
  exact Transport.moves_send bytes before.transport

/-- Nothing but the transport changed. -/
def OnlyTransport (before after : Channel) : Prop :=
  ∃ transport, after = { before with transport }

/-- Where nothing but the transport changed, the channel is as marked as it was. -/
theorem OnlyTransport.inFlight_eq {before after : Channel} (only : OnlyTransport before after) :
    after.inFlight = before.inFlight := by
  obtain ⟨_, rfl⟩ := only
  rfl

/-- Sending a request that can be written leaves what sending its frame leaves. -/
theorem last_send {request : Request} {frame : Bytes} {before : Channel}
    (encoded : request.encode before.order before.version (before.requestCount + 1) = .ok frame) :
    Action.last (send request before) =
      Action.last (sendRaw frame { before with requestCount := before.requestCount + 1 }) := by
  rw [send_of_encode encoded]
  cases result : sendRaw frame { before with requestCount := before.requestCount + 1 } with
  | ok value after => exact congrArg Action.last (Action.bind_of_ok result)
  | error stop after => exact congrArg Action.last (Action.bind_of_error result)

/-- However sending a request ends, only its number and what is sent change. -/
theorem onlyTransport_send (request : Request) (before : Channel) :
    OnlyTransport { before with requestCount := before.requestCount + 1 }
      (Action.last (send request before)) := by
  cases encoded : request.encode before.order before.version (before.requestCount + 1) with
  | ok frame =>
    rw [last_send encoded, sendRaw, last_onTransport]
    exact ⟨_, rfl⟩
  | error error =>
    rw [send_of_encode_eq_error encoded]
    exact ⟨before.transport, rfl⟩

/-- Whether the channel that a computation leaves, with a result or without, is always so related to
the one it began with. -/
def Leaves {α : Type} (relation : Channel → Channel → Prop) (action : Action α) : Prop :=
  ∀ before : Channel, relation before (Action.last (action before))

/-- A relation that holds where nothing happens, and goes on from one stretch to the next. -/
structure Carried (relation : Channel → Channel → Prop) : Prop where
  /-- Nothing happens. -/
  refl : ∀ channel, relation channel channel
  /-- One stretch follows another. -/
  trans : ∀ {first second third},
    relation first second → relation second third → relation first third

section Leaves

variable {α β : Type} {relation : Channel → Channel → Prop}

/-- A relation that goes on from a first result leads to every end of a sequence. -/
theorem Leaves.of_ok (carried : Carried relation) {first : Action α}
    (head : Leaves relation first) {value : α} {before middle after : Channel}
    (done : first before = .ok value middle) (tail : relation middle after) :
    relation before after := by
  have reached := head before
  rw [done] at reached
  exact carried.trans reached tail

/-- A sequence leaves what its parts leave. -/
theorem Leaves.bind (carried : Carried relation) {first : Action α} {next : α → Action β}
    (head : Leaves relation first)
    (tail : ∀ value, Leaves relation (next value)) : Leaves relation (first >>= next) := by
  intro before
  apply Action.last_bind (motive := relation before)
  · intro stop middle stopped
    have reached := head before
    rwa [stopped] at reached
  · intro value middle done
    exact head.of_ok carried done (tail value middle)

/-- A result without effects leaves the channel as it was. -/
theorem leaves_ofExcept (carried : Carried relation) (result : Except Error α) :
    Leaves relation (ofExcept result) := by
  intro before
  cases result with
  | ok _ => exact carried.refl before
  | error _ => exact carried.refl before

/-- Reading a frame leaves what its reads leave. -/
theorem leaves_readPacket (carried : Carried relation)
    (reads : ∀ count, Leaves relation (readRaw count)) : Leaves relation readPacket := by
  refine (reads 4).bind carried fun word => ?_
  intro before
  apply Action.last_bind (motive := relation before)
  · intro stop middle stopped
    cases stopped
  · intro channel middle got
    obtain ⟨rfl, rfl⟩ := Action.get_eq_ok.mp got
    split
    · exact carried.refl before
    · exact (reads _).bind carried (fun rest => leaves_ofExcept carried _) before

/-- Reading what remains of an answer leaves what its reads leave. -/
theorem leaves_readResponseFrom (carried : Carried relation)
    (reads : ∀ count, Leaves relation (readRaw count)) (first : Option Header) (payload : Bytes) :
    Leaves relation (readResponseFrom first payload) := by
  have packets := leaves_readPacket carried reads
  intro before
  fun_induction readResponseFrom first payload before with
  | case1 first payload before interrupt after stopped =>
    have reached := packets before
    rwa [stopped] at reached
  | case2 first payload before packet middle received other ih =>
    exact packets.of_ok carried received ih
  | case3 first payload before packet middle received same header joined more ih =>
    exact packets.of_ok carried received ih
  | case4 first payload before packet middle received same header joined last =>
    have reached := packets before
    rwa [received] at reached

end Leaves

/-- Bytes of the peer were taken, and none was sent. -/
def Takes (before after : Channel) : Prop :=
  ∃ taken, before.transport.Moves after.transport taken []

/-- What is taken in stretches is taken. -/
theorem Takes.carried : Carried Takes where
  refl _ := ⟨[], .refl _⟩
  trans := by
    rintro first second third ⟨taken, moved⟩ ⟨taken', moved'⟩
    exact ⟨taken ++ taken', by simpa using moved.trans moved'⟩

/-- However a read ends, it only takes bytes. -/
theorem takes_readRaw (count : Nat) : Leaves Takes (readRaw count) := by
  intro before
  rw [readRaw, last_onTransport]
  exact Transport.moves_read count before.transport

/-- A change beside the transport takes nothing. -/
theorem takes_modify {change : Channel → Channel}
    (kept : ∀ channel, (change channel).transport = channel.transport) :
    Leaves Takes (modify change) := by
  intro before
  change Takes before (change before)
  exact ⟨[], by rw [kept]; exact .refl _⟩

/-- However receiving an answer ends, it only takes bytes. -/
theorem takes_readResponse : Leaves Takes readResponse :=
  leaves_readResponseFrom Takes.carried takes_readRaw none []

/-- What holds after the first part of a sequence holds after all of it, when the second part only
takes bytes of the peer and it goes on to hold while these are taken. -/
theorem last_bind_of_takes {α β : Type} {motive : Channel → Prop} {first : Action α}
    {next : α → Action β} {before : Channel}
    (holds : ∀ {middle after}, motive middle → Takes middle after → motive after)
    (head : motive (Action.last (first before))) (tail : ∀ value, Leaves Takes (next value)) :
    motive (Action.last ((first >>= next) before)) := by
  apply Action.last_bind (motive := motive)
  · intro stop middle stopped
    rwa [stopped] at head
  · intro value middle done
    rw [done] at head
    exact holds head (tail value middle)

/-- What changes nothing but the transport in stretches changes nothing else. -/
theorem OnlyTransport.carried : Carried OnlyTransport where
  refl channel := ⟨channel.transport, rfl⟩
  trans := by
    rintro first _ _ ⟨_, rfl⟩ ⟨transport, rfl⟩
    exact ⟨transport, rfl⟩

/-- However receiving an answer ends, it changes nothing but the transport. -/
theorem onlyTransport_readResponse : Leaves OnlyTransport readResponse := by
  refine leaves_readResponseFrom OnlyTransport.carried ?_ none []
  intro count before
  rw [readRaw, last_onTransport]
  exact ⟨_, rfl⟩

end SqlWire.Channel
