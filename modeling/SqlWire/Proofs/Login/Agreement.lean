import SqlWire.Proofs.Login.Dialogue
import SqlWire.Proofs.Login.Failure

/-!
# When a login succeeds

A login gives a session exactly when the server says what both sides agree on, and the session holds
what was said. Every other login that ends fails with an error of the connection or of the
transport. A server that knows the password can always say what leads to a session
(`Agreement.plain`).
-/
namespace SqlWire

/-- The payload in which a server sends a challenge. -/
def Challenge.payload (order : ByteOrder) (challenge : Challenge) : Bytes :=
  order.u32 challenge.capacity ++ order.u32 challenge.serverVersion ++
    order.field challenge.scramble ++ order.u32 challenge.iterations

/-- The payload in which a server replies to a proof. -/
def LoginReply.payload (order : ByteOrder) (reply : LoginReply) : Bytes :=
  order.u32 reply.sessionId ++ order.u32 reply.sessionNumber ++ order.u32 0 ++
    order.u32 reply.charset.flag ++ order.field reply.signature

/-- A challenge is sent in the layout in which it is read. -/
theorem Challenge.laidOut_payload (order : ByteOrder) {challenge : Challenge}
    (fits : challenge.scramble.length < UInt32.size) :
    challenge.LaidOut order (challenge.payload order) := by
  refine ⟨fits, List.replicate (padding challenge.scramble.length) 0,
    order.u32 challenge.iterations, List.length_replicate, ?_, .inr ⟨[], ?_⟩⟩
  · simp [payload, ByteOrder.field]
  · rw [List.append_nil]

/-- A reply is sent in the layout in which it is read. -/
theorem LoginReply.laidOut_payload (order : ByteOrder) {reply : LoginReply}
    (fits : reply.signature.length < UInt32.size) : reply.LaidOut order (reply.payload order) := by
  refine ⟨fits, order.u32 0, List.replicate (padding reply.signature.length) 0, [],
    order.length_u32 0, List.length_replicate, ?_⟩
  simp [payload, ByteOrder.field]

/-- The answer of one frame to the request of a number. -/
def Answer.ofPayload (count : UInt32) (payload : Bytes)
    (fits : Header.byteSize + payload.length < UInt32.size) : Answer count :=
  .single
    ⟨⟨UInt32.ofNat (Header.byteSize + payload.length), 0, 0, 0, 0, 0, 0, count⟩, 0, payload,
      UInt32.toNat_ofNat_of_lt' fits⟩
    (by simp [Frame.ends, Frame.answers, Header.hasMore])

/-- The answer of one frame says its payload. -/
@[simp] theorem Answer.packet_ofPayload {count : UInt32} {payload : Bytes}
    (fits : Header.byteSize + payload.length < UInt32.size) :
    (ofPayload count payload fits).packet =
      ⟨⟨UInt32.ofNat (Header.byteSize + payload.length), 0, 0, 0, 0, 0, 0, count⟩, payload⟩ :=
  Answer.packet_single _ _

namespace Agreement

variable (password : Bytes) (key : ClientKey)

/-- A challenge of nothing but the key. -/
def plainChallenge : Challenge := ⟨0, 0, key.bytes, Login.defaultIterations⟩

/-- The reply to the proof that answers the challenge. -/
def plainReply : LoginReply :=
  ⟨0, 0, .utf8, (PasswordDigest.derive password key.bytes Login.defaultIterations).signature⟩

/-- What a server may say that knows the password. -/
def plain : Agreement password key where
  opening := ⟨.little, 0, 1⟩
  words := [0, 0, 1, 0]
  announced := ⟨0, 1, rfl, rfl, rfl⟩
  handshake := .ofPayload 1 [] (by decide)
  handshake_ok := by rw [Answer.packet_ofPayload]
  invitation := .ofPayload 2 ((plainChallenge key).payload .little) (by
    simp [Challenge.payload, plainChallenge, length_field, key.size_eq, fieldSize, padding,
      clientKeySize, Header.byteSize, UInt32.size])
  invitation_ok := by rw [Answer.packet_ofPayload]
  challenge := plainChallenge key
  challenge_laidOut := by
    rw [Answer.packet_ofPayload]
    exact Challenge.laidOut_payload .little
      (by simp [plainChallenge, key.size_eq, clientKeySize, UInt32.size])
  echoed := List.prefix_rfl
  agreement := .ofPayload 3 ((plainReply password key).payload .little) (by
    simp [LoginReply.payload, plainReply, length_field, PasswordDigest.length_signature_derive,
      fieldSize, padding, Header.byteSize, UInt32.size])
  agreement_ok := by rw [Answer.packet_ofPayload]
  reply := plainReply password key
  reply_laidOut := by
    rw [Answer.packet_ofPayload]
    exact LoginReply.laidOut_payload .little
      (by simp [plainReply, PasswordDigest.length_signature_derive, UInt32.size])
  signed := PasswordDigest.signature_derive password key.bytes Login.defaultIterations

end Agreement

namespace Connection

open Login

/-- A login over a transport fails with what the login over its channel fails with, as it is
reported. -/
theorem failure_of_loginFrom {zone : Int16} {transport after : Transport} {address : String}
    {params : ConnectParams} {key : ClientKey} {error : Error}
    (h : loginFrom zone transport address params key = .error (.failed error) after) :
    ∃ cause channel,
      perform params key zone (.ofTransport transport address) = .error (.failed cause) channel ∧
      error = loginError cause := by
  unfold loginFrom run at h
  cases failed : perform params key zone (.ofTransport transport address) with
  | ok session channel => simp [failed] at h
  | error stop channel =>
    cases stop with
    | failed cause =>
      simp only [failed, loginInterrupt, EStateM.Result.error.injEq, Interrupt.failed.injEq] at h
      exact ⟨cause, channel, rfl, h.1.symm⟩
    | waiting => simp [failed, loginInterrupt] at h

/-- A login over a transport. It gives a session exactly when all its calls pass and the peer's
bytes begin with what both sides agree on: the prelude, three answers that report success, a
challenge whose scramble begins with the client's key, and a reply with the 32 bytes of the
signature that is derived from the password. The session holds what was said, and for any password
and key there is something to agree on. Every other login that ends fails with an error of the
connection or of the transport. -/
theorem loginFrom_succeeds_iff_agreed (zone : Int16) (transport : Transport) (address : String)
    (params : ConnectParams) (key : ClientKey) :
    (∀ session,
      (∃ connection after, loginFrom zone transport address params key = .ok connection after ∧
        connection.session = session) ↔
      ∃ (agreed : Agreement (Utf8.encode params.password) key) (rest : Bytes),
        Transport.Passes transport.schedule transport.calls agreed.operations ∧
        transport.inbound = agreed.bytes ++ rest ∧
        agreed.reply.signature.length = 32 ∧ session = agreed.session) ∧
    Nonempty (Agreement (Utf8.encode params.password) key) ∧
    ∀ error after, loginFrom zone transport address params key = .error (.failed error) after →
      error.kind = .connection ∨ error.kind = .transport := by
  have fresh : (Channel.ofTransport transport address).requestCount = 0 := rfl
  refine ⟨?_, ⟨.plain _ key⟩, ?_⟩
  · intro session
    constructor
    · rintro ⟨connection, after, succeeded, rfl⟩
      obtain ⟨session, channel, performed, rfl, rfl⟩ := loginFrom_eq_ok.mp succeeded
      obtain ⟨agreed, rfl, concluded⟩ := (perform_eq_ok fresh rfl).mp performed
      obtain ⟨rest, queued, -⟩ := concluded.reached
      exact ⟨agreed, rest, concluded.granted, queued, agreed.length_signature, rfl⟩
    · rintro ⟨agreed, rest, granted, queued, -, rfl⟩
      let start := Channel.ofTransport transport address
      let script := agreed.toInvitation.script params zone address
      let channel := start.reach agreed.opening 3 rest script agreed.operations.length
      have performed : perform params key zone start = .ok agreed.session channel :=
        (perform_eq_ok fresh rfl).mpr ⟨agreed, rfl, granted, rest, queued, rfl⟩
      have succeeded : loginFrom zone transport address params key =
          .ok ⟨channel, agreed.session, params, []⟩ channel.transport :=
        loginFrom_eq_ok.mpr ⟨agreed.session, channel, performed, rfl, rfl⟩
      exact ⟨_, _, succeeded, rfl⟩
  · intro error after failed
    obtain ⟨cause, channel, performed, rfl⟩ := failure_of_loginFrom failed
    exact kind_loginError (perform_untimed params key zone _ _ _ performed)

end Connection
end SqlWire
