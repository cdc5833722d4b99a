import SqlWire.Proofs.Frame
import SqlWire.Session.Login

/-!
# How a login fails

No error of a login is one of a time limit: malformed bytes, a refusal, a wrong signature and
failures of the transport are all there are (`perform_untimed`). So each is reported as an error of
the connection or of the transport, because every other kind becomes the cause of one of the
connection.
-/
namespace SqlWire

open SqlWire.Action

/-- Whether an error is none of a time limit. -/
def Error.Untimed (error : Error) : Prop := error.kind ≠ .timeout

/-- Whether an interrupt is no error of a time limit. -/
def Interrupt.Untimed : Interrupt → Prop
  | .failed error => error.Untimed
  | .waiting => True

namespace Reader

/-- Taking bytes stops for no time limit. -/
theorem untimed_take (count : Nat) : StopsFor Error.Untimed (take count) := by
  intro _ _ _ stopped
  obtain ⟨_, rfl, _⟩ := take_eq_error.mp stopped
  simp [Error.Untimed, Error.kind]

/-- Passing over bytes stops for no time limit. -/
theorem untimed_skip (count : Nat) : StopsFor Error.Untimed (skip count) :=
  (untimed_take count).bind fun _ => stopsFor_pure ()

/-- Reading a word stops for no time limit. -/
theorem untimed_u32 (order : ByteOrder) : StopsFor Error.Untimed (u32 order) :=
  (untimed_take 4).bind fun _ => stopsFor_pure _

/-- Reading a byte stops for no time limit. -/
theorem untimed_u8 : StopsFor Error.Untimed u8 :=
  (untimed_take 1).bind fun _ => stopsFor_pure _

/-- Reading a short word stops for no time limit. -/
theorem untimed_u16 (order : ByteOrder) : StopsFor Error.Untimed (u16 order) :=
  (untimed_take 2).bind fun _ => stopsFor_pure _

/-- Counting the bytes that are left never stops. -/
theorem untimed_remaining : StopsFor Error.Untimed remaining := by
  intro _ _ _ stopped
  cases stopped

/-- Reading a field stops for no time limit. -/
theorem untimed_field (order : ByteOrder) : StopsFor Error.Untimed (field order) := by
  refine (untimed_u32 order).bind fun length => ?_
  refine (untimed_take _).bind fun data => ?_
  exact (untimed_skip _).bind fun _ => stopsFor_pure data

/-- A result that takes no bytes stops for no other reason than its error. -/
theorem untimed_ofExcept {α : Type} {result : Except Error α}
    (untimed : ∀ error, result = .error error → error.Untimed) :
    StopsFor Error.Untimed (ofExcept result) := by
  intro _ _ _ stopped
  cases result with
  | ok value => cases stopped
  | error error =>
    cases stopped
    exact untimed _ rfl

end Reader

/-- Reading an error payload stops for no time limit. -/
theorem ErrorPayload.untimed_read (version : UInt32) (codec : Codec) :
    StopsFor Error.Untimed (read version codec) := by
  refine (Reader.untimed_u32 codec.order).bind fun code => ?_
  refine (Reader.untimed_skip 8).bind fun _ => ?_
  split
  · refine StopsFor.bind ?_ fun message => stopsFor_pure _
    intro _ _ _ stopped
    cases stopped
  · refine StopsFor.bind ?_ fun message => stopsFor_pure _
    refine (Reader.untimed_u32 codec.order).bind fun length => ?_
    refine Reader.untimed_remaining.bind fun remaining => ?_
    split
    · intro _ _ _ stopped
      cases stopped
      simp [Error.Untimed, Error.kind]
    · refine (Reader.untimed_take _).bind fun bytes => ?_
      exact (Reader.untimed_skip _).bind fun _ => stopsFor_pure _

/-- Reading a header stops for no time limit. -/
theorem Header.untimed_read (order : ByteOrder) : StopsFor Error.Untimed (read order) := by
  refine (Reader.untimed_u32 order).bind fun size => ?_
  refine Reader.untimed_u8.bind fun command => ?_
  refine Reader.untimed_u8.bind fun result => ?_
  refine (Reader.untimed_u16 order).bind fun flags => ?_
  refine Reader.untimed_u8.bind fun version => ?_
  refine Reader.untimed_u8.bind fun version1 => ?_
  refine Reader.untimed_u8.bind fun version2 => ?_
  refine (Reader.untimed_skip 1).bind fun _ => ?_
  exact (Reader.untimed_u32 order).bind fun requestCount => stopsFor_pure _

namespace Transport

/-- A call fails with an error of the transport. -/
theorem untimed_call (operation : Operation) (move : Nat → Transport → Transport) :
    StopsFor Interrupt.Untimed (call operation move) := by
  intro before stop after stopped
  unfold call at stopped
  split at stopped
  · cases stopped
  · cases stopped
    simp [Interrupt.Untimed, Error.Untimed, Error.kind]
  · cases stopped
    trivial

/-- Sending fails where one of its calls does. -/
theorem untimed_send (bytes : Bytes) : StopsFor Interrupt.Untimed (send bytes) := by
  refine StopsFor.bind ?_ fun _ => untimed_call .flush _
  unfold write
  split
  · exact stopsFor_pure ()
  · exact (untimed_call .write _).bind fun _ => stopsFor_modify _

/-- Reading fails where its call does, or where the peer ended the stream. -/
theorem untimed_read (count : Nat) : StopsFor Interrupt.Untimed (read count) := by
  unfold read
  split
  · exact stopsFor_pure []
  · refine (untimed_call .read _).bind fun _ => ?_
    intro before stop after stopped
    unfold takeInbound at stopped
    split at stopped
    · cases stopped
    · cases stopped
      split
      · simp [Interrupt.Untimed, Error.Untimed, Error.kind]
      · trivial

end Transport

namespace Channel

/-- Work on the transport stops for the reasons it has there. -/
theorem untimed_onTransport {α : Type} {action : Transport.Action α}
    (untimed : StopsFor Interrupt.Untimed action) :
    StopsFor Interrupt.Untimed (onTransport action) := by
  intro before stop after stopped
  unfold onTransport at stopped
  split at stopped
  · cases stopped
  · rename_i there
    cases stopped
    exact untimed _ _ _ there

/-- A result without effects stops for no other reason than its error. -/
theorem untimed_ofExcept {α : Type} {result : Except Error α}
    (untimed : ∀ error, result = .error error → error.Untimed) :
    StopsFor Interrupt.Untimed (ofExcept result) := by
  cases result with
  | ok value => exact stopsFor_pure value
  | error error => exact stopsFor_throw (untimed error rfl)

/-- Receiving a frame stops for no time limit. -/
theorem untimed_readPacket : StopsFor Interrupt.Untimed readPacket := by
  refine (untimed_onTransport (Transport.untimed_read 4)).bind fun word => ?_
  refine stopsFor_get.bind fun channel => ?_
  dsimp only
  split
  · apply stopsFor_throw
    simp [Interrupt.Untimed, Error.Untimed, Error.kind]
  · refine (untimed_onTransport (Transport.untimed_read _)).bind fun rest => ?_
    refine untimed_ofExcept fun error failed => ?_
    unfold packetOf at failed
    split at failed
    · cases failed
    · rename_i stopped
      cases failed
      exact Header.untimed_read _ _ _ _ stopped

/-- Receiving an answer fails where receiving one of its frames does. -/
theorem untimed_readResponse : StopsFor Interrupt.Untimed readResponse := by
  suffices every : ∀ first payload, StopsFor Interrupt.Untimed (readResponseFrom first payload) from
    every none []
  intro first payload before stop after stopped
  fun_induction readResponseFrom first payload before with
  | case1 first payload before interrupt middle failed =>
    cases stopped
    exact untimed_readPacket _ _ _ failed
  | case2 first payload before packet middle received other ih => exact ih stopped
  | case3 first payload before packet middle received same header joined more ih =>
    exact ih stopped
  | case4 first payload before packet middle received same header joined last => cases stopped

/-- Sending a request that can be written fails where sending its bytes does. -/
theorem untimed_send {request : Request} (fits : request.Fits) :
    StopsFor Interrupt.Untimed (send request) := by
  refine (stopsFor_modify _).bind fun _ => ?_
  refine stopsFor_get.bind fun channel => ?_
  rw [Request.encode_of_fits fits]
  refine (stopsFor_pure _).bind fun frame => ?_
  exact (untimed_onTransport (Transport.untimed_send frame)).bind fun _ => stopsFor_pure _

/-- A round trip is refused, or fails where sending or receiving does. -/
theorem untimed_roundTrip {request : Request} (fits : request.Fits) :
    StopsFor Interrupt.Untimed (roundTrip request) := by
  refine stopsFor_get.bind fun channel => ?_
  split
  · apply stopsFor_throw
    simp [Interrupt.Untimed, Error.Untimed, Error.kind]
  · refine (stopsFor_modify _).bind fun _ => ?_
    refine (untimed_send fits).bind fun _ => ?_
    refine untimed_readResponse.bind fun packet => ?_
    exact (stopsFor_modify _).bind fun _ => stopsFor_pure packet

end Channel

namespace Login

/-- Finding a value in a payload stops for no other reasons than its reader. -/
theorem untimed_parse {α : Type} {reader : Reader α} (untimed : StopsFor Error.Untimed reader)
    (payload : Bytes) : StopsFor Interrupt.Untimed (Channel.ofExcept (parse reader payload)) := by
  refine Channel.untimed_ofExcept fun error failed => ?_
  unfold parse at failed
  split at failed
  · cases failed
  · rename_i stopped
    cases failed
    exact untimed _ _ _ stopped

/-- Checking an answer stops for no time limit, also when the error it reports is malformed. -/
theorem untimed_check (packet : Packet) (version : UInt32) (order : ByteOrder) :
    StopsFor Interrupt.Untimed (Channel.ofExcept (check packet version order)) := by
  refine Channel.untimed_ofExcept fun error failed => ?_
  unfold check at failed
  split at failed
  · split at failed
    · cases failed
      simp [Error.Untimed, Error.kind]
    · rename_i stopped
      cases failed
      exact ErrorPayload.untimed_read _ _ _ _ _ stopped
  · cases failed

/-- Reading a challenge stops for no time limit. -/
theorem untimed_readChallenge (order : ByteOrder) :
    StopsFor Error.Untimed (readChallenge order) := by
  refine (Reader.untimed_u32 order).bind fun capacity => ?_
  refine (Reader.untimed_u32 order).bind fun serverVersion => ?_
  refine (Reader.untimed_field order).bind fun scramble => ?_
  refine StopsFor.bind ?_ fun iterations => stopsFor_pure _
  refine Reader.untimed_remaining.bind fun remaining => ?_
  split
  · exact Reader.untimed_u32 order
  · exact stopsFor_pure _

/-- Reading a reply stops for no time limit. -/
theorem untimed_readReply (order : ByteOrder) : StopsFor Error.Untimed (readReply order) := by
  refine (Reader.untimed_u32 order).bind fun sessionId => ?_
  refine (Reader.untimed_u32 order).bind fun sessionNumber => ?_
  refine (Reader.untimed_skip 4).bind fun _ => ?_
  refine (Reader.untimed_u32 order).bind fun flag => ?_
  refine StopsFor.bind ?_ fun charset => ?_
  · refine Reader.untimed_ofExcept fun error failed => ?_
    rw [Charset.ofFlag_eq_error failed]
    simp [Error.Untimed, Error.kind]
  · refine (Reader.untimed_field order).bind fun signature => ?_
    refine StopsFor.bind ?_ fun _ => stopsFor_pure _
    refine Reader.untimed_remaining.bind fun remaining => ?_
    split
    · exact Reader.untimed_skip 8
    · exact stopsFor_pure _

/-- Exchanging the prelude fails where sending or receiving does. -/
theorem untimed_exchangePrelude : StopsFor Interrupt.Untimed exchangePrelude := by
  have reads := fun count => Channel.untimed_onTransport (Transport.untimed_read count)
  refine (Channel.untimed_onTransport (Transport.untimed_send magic)).bind fun _ => ?_
  refine (reads 1).bind fun flag => ?_
  refine (stopsFor_modify _).bind fun _ => ?_
  refine (reads 1).bind fun version => ?_
  refine (reads 2).bind fun word => ?_
  exact (stopsFor_modify _).bind fun _ => stopsFor_pure _

/-- The handshake fails where its exchange does, or is refused. -/
theorem untimed_handshake (opening : Prelude) :
    StopsFor Interrupt.Untimed (handshake opening) := by
  have fits : (Request.handshake opening.requestFlag.toUInt32).Fits := trivial
  refine ((Channel.untimed_send fits).bind fun _ => stopsFor_pure ()).bind fun _ => ?_
  refine Channel.untimed_readResponse.bind fun packet => ?_
  exact (untimed_check packet 0 _).bind fun _ => stopsFor_pure ()

/-- Announcing the user fails where its exchange does, is refused, or gives no good challenge. -/
theorem untimed_authenticate (params : ConnectParams) (key : ClientKey) (opening : Prelude) :
    StopsFor Interrupt.Untimed (authenticate params key opening) := by
  refine StopsFor.bind (Channel.untimed_roundTrip trivial) fun packet => ?_
  refine (untimed_check packet 0 _).bind fun payload => ?_
  refine (untimed_parse (untimed_readChallenge _) payload).bind fun challenge => ?_
  split
  · exact stopsFor_pure challenge
  · apply stopsFor_throw
    simp [Interrupt.Untimed, Error.Untimed, Error.kind]

/-- The proof fails where its exchange does, is refused, or gives no right signature. -/
theorem untimed_prove (params : ConnectParams) (zone : Int16) (opening : Prelude)
    (digest : PasswordDigest) : StopsFor Interrupt.Untimed (prove params zone opening digest) := by
  refine stopsFor_get.bind fun channel => ?_
  refine StopsFor.bind (Channel.untimed_roundTrip trivial) fun packet => ?_
  refine (untimed_check packet _ _).bind fun payload => ?_
  refine (untimed_parse (untimed_readReply _) payload).bind fun reply => ?_
  split
  · exact stopsFor_pure reply
  · apply stopsFor_throw
    simp [Interrupt.Untimed, Error.Untimed, Error.kind]

/-- No error of a login is one of a time limit. -/
theorem perform_untimed (params : ConnectParams) (key : ClientKey) (zone : Int16) :
    StopsFor Interrupt.Untimed (perform params key zone) := by
  refine StopsFor.bind ?_ fun approached => ?_
  · refine untimed_exchangePrelude.bind fun opening => ?_
    refine (untimed_handshake opening).bind fun _ => ?_
    exact (untimed_authenticate params key opening).bind fun challenge => stopsFor_pure _
  · exact (untimed_prove params zone _ _).bind fun reply => stopsFor_pure _

/-- An error that is none of a time limit is reported as one of the connection or the transport. -/
theorem kind_loginError {error : Error} (untimed : error.Untimed) :
    (loginError error).kind = .connection ∨ (loginError error).kind = .transport := by
  cases error with
  | transport operation => exact .inr rfl
  | timeout host port limit => exact absurd rfl untimed
  | _ => exact .inl rfl

end Login
end SqlWire
