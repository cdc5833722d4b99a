import SqlWire.Connection
import SqlWire.Proofs.Login.Payload
import SqlWire.Proofs.PasswordDigest
import SqlWire.Proofs.RoundTrip

/-!
# The dialogue of a login

A login is a conversation in four parts, and each structure below is what a server says up to the
end of one of them, with the reasons for which the client goes on. A `Greeting` is the prelude, an
`Acceptance` ends with the answer to the handshake, an `Invitation` with a challenge that echoes the
client's key, and an `Agreement` with the right signature. Each part of the program succeeds exactly
when the server says the corresponding part and all calls pass.
-/
namespace SqlWire

/-- A server has announced itself. -/
structure Greeting where
  /-- What is announced. -/
  opening : Prelude
  /-- The four bytes of the announcement. -/
  words : Bytes
  /-- The bytes announce the prelude. -/
  announced : opening.AnnouncedBy words

/-- A server has announced itself and accepted the handshake. -/
structure Acceptance extends Greeting where
  /-- The answer to the handshake. -/
  handshake : Answer 1
  /-- The answer reports success. -/
  handshake_ok : handshake.packet.header.result = 0

/-- A server has accepted the handshake and challenged the holder of a key. -/
structure Invitation (key : ClientKey) extends Acceptance where
  /-- The answer to the announcement of the user. -/
  invitation : Answer 2
  /-- The answer reports success. -/
  invitation_ok : invitation.packet.header.result = 0
  /-- The challenge in the answer. -/
  challenge : Challenge
  /-- The answer is laid out for the challenge. -/
  challenge_laidOut : challenge.LaidOut opening.order invitation.packet.payload
  /-- The scramble begins with the key. -/
  echoed : key.bytes <+: challenge.scramble

/-- A server has challenged the holder of a key, accepted the proof of a password and shown that it
knows the password, too. -/
structure Agreement (password : Bytes) (key : ClientKey) extends Invitation key where
  /-- The answer to the proof. -/
  agreement : Answer 3
  /-- The answer reports success. -/
  agreement_ok : agreement.packet.header.result = 0
  /-- The reply in the answer. -/
  reply : LoginReply
  /-- The answer is laid out for the reply. -/
  reply_laidOut : reply.LaidOut opening.order agreement.packet.payload
  /-- The signature is the keyed digest of the whole scramble. Its key is made of the password,
  stretched under the digest of what the scramble has behind the client's key, by as many keyed
  digests as the challenge asks for, at least one. -/
  signed : reply.signature =
    Crypto.hmac (Crypto.hmac
      (Crypto.stretch password (Crypto.Md5.hash (challenge.scramble.drop 32))
        (max 1 challenge.iterations.toNat))
      (Utf8.encode "Server Key")) challenge.scramble

/-- The calls that send a request and receive an answer. -/
def Answer.operations {count : UInt32} (answer : Answer count) : List Operation :=
  Channel.sending ++ Channel.reading answer.frames.length

/-- There are two calls for the request and two for each frame of the answer. -/
@[simp] theorem Answer.length_operations {count : UInt32} (answer : Answer count) :
    answer.operations.length = 2 + 2 * answer.frames.length := by
  rw [operations, Channel.reading, List.length_append, List.length_replicate]
  rfl

namespace Greeting

/-- The calls up to the end of the prelude. -/
def operations : List Operation := Channel.sending ++ [.read, .read, .read]

/-- The handshake that follows. -/
def request (greeting : Greeting) : Request :=
  .handshake greeting.opening.requestFlag.toUInt32

/-- All that the client sends up to the answer to the handshake. -/
def script (greeting : Greeting) : Bytes :=
  Login.magic ++ greeting.request.frame greeting.opening.order greeting.opening.version 1

end Greeting

namespace Acceptance

/-- The bytes up to the end of the answer to the handshake. -/
def bytes (acceptance : Acceptance) : Bytes :=
  acceptance.words ++ acceptance.handshake.bytes acceptance.opening.order

/-- The calls up to there. -/
def operations (acceptance : Acceptance) : List Operation :=
  Greeting.operations ++ acceptance.handshake.operations

/-- The announcement of the user that follows. -/
def request (acceptance : Acceptance) (params : ConnectParams) (key : ClientKey) : Request :=
  .authInit (Utf8.encode params.user) key.bytes (params.tenant.map Utf8.encode)
    (Login.tenantVersion ≤ acceptance.opening.version)

/-- All that the client sends up to the challenge. -/
def script (acceptance : Acceptance) (params : ConnectParams) (key : ClientKey) : Bytes :=
  acceptance.toGreeting.script ++
    (acceptance.request params key).frame acceptance.opening.order acceptance.opening.version 2

end Acceptance

namespace Invitation

variable {key : ClientKey}

/-- The bytes up to the end of the challenge. -/
def bytes (invited : Invitation key) : Bytes :=
  invited.toAcceptance.bytes ++ invited.invitation.bytes invited.opening.order

/-- The calls up to there. -/
def operations (invited : Invitation key) : List Operation :=
  invited.toAcceptance.operations ++ invited.invitation.operations

/-- What the client makes of the password. -/
def digest (invited : Invitation key) (password : Bytes) : PasswordDigest :=
  .derive password invited.challenge.scramble invited.challenge.iterations

/-- The proof of the password that follows. -/
def request (invited : Invitation key) (params : ConnectParams) (zone : Int16)
    (address : String) : Request :=
  .login (Utf8.encode params.user) (invited.digest (Utf8.encode params.password)).proof
    (Utf8.encode address) zone (params.tenant.map Utf8.encode)

/-- All that the client sends in a login. -/
def script (invited : Invitation key) (params : ConnectParams) (zone : Int16)
    (address : String) : Bytes :=
  invited.toAcceptance.script params key ++
    (invited.request params zone address).frame invited.opening.order invited.opening.version 3

end Invitation

namespace Agreement

variable {password : Bytes} {key : ClientKey}

/-- The bytes up to the end of the login. -/
def bytes (agreed : Agreement password key) : Bytes :=
  agreed.toInvitation.bytes ++ agreed.agreement.bytes agreed.opening.order

/-- The calls of the login. -/
def operations (agreed : Agreement password key) : List Operation :=
  agreed.toInvitation.operations ++ agreed.agreement.operations

/-- The signature is the one that the client expects. -/
theorem signature_eq (agreed : Agreement password key) :
    agreed.reply.signature = (agreed.digest password).signature := by
  rw [agreed.signed, Invitation.digest, PasswordDigest.signature_derive]

/-- The signature has 32 bytes. -/
theorem length_signature (agreed : Agreement password key) :
    agreed.reply.signature.length = 32 := by
  rw [agreed.signed, Crypto.length_hmac]

/-- The session that both sides agreed on. -/
def session (agreed : Agreement password key) : Session where
  protocolVersion := agreed.opening.version
  serverVersion := agreed.challenge.serverVersion
  order := agreed.opening.order
  charset := agreed.reply.charset
  capacity := agreed.challenge.capacity
  sessionId := agreed.reply.sessionId
  sessionNumber := agreed.reply.sessionNumber
  scramble := agreed.challenge.scramble
  iterations := agreed.challenge.iterations
  clientKey := key

end Agreement

namespace Channel

/-- The channel after a conversation under a prelude and up to the request of a number, by as many
calls, in which `given` was sent and after which `rest` is left of the peer's bytes. -/
def reach (channel : Channel) (opening : Prelude) (number : UInt32) (rest given : Bytes)
    (calls : Nat) : Channel :=
  { channel.advance rest given calls with
    order := opening.order
    version := opening.version
    requestCount := number }

/-- Between two states of a channel, a peer that announced a prelude said `heard` and was told
`given`, up to the request of a number; all calls passed. -/
structure Converses (start after : Channel) (opening : Prelude) (number : UInt32)
    (heard given : Bytes) (operations : List Operation) : Prop where
  /-- The calls pass. -/
  granted : start.Grants operations
  /-- The bytes were queued, and what follows them is left. -/
  reached : ∃ rest, start.transport.inbound = heard ++ rest ∧
    after = start.reach opening number rest given operations.length

namespace Converses

variable {start middle after : Channel} {opening : Prelude} {number : UInt32}
  {heard given : Bytes} {operations : List Operation}

/-- A conversation moves what was said in it. -/
theorem moves (conversed : start.Converses after opening number heard given operations) :
    start.transport.Moves after.transport heard given := by
  obtain ⟨rest, queued, rfl⟩ := conversed.reached
  exact Transport.moves_advance queued given operations.length

/-- A conversation leaves the mark as it is. -/
theorem inFlight_eq (conversed : start.Converses after opening number heard given operations) :
    after.inFlight = start.inFlight := by
  obtain ⟨_, _, rfl⟩ := conversed.reached
  rfl

/-- A conversation leaves the address as it is. -/
theorem localAddress_eq (conversed : start.Converses after opening number heard given operations) :
    after.localAddress = start.localAddress := by
  obtain ⟨_, _, rfl⟩ := conversed.reached
  rfl

/-- A conversation was under way at every point of it. -/
theorem cut {heard' : Bytes} {operations' : List Operation}
    (conversed : start.Converses after opening number (heard ++ heard') given
      (operations ++ operations')) (number' : UInt32) (given' : Bytes) :
    ∃ middle, start.Converses middle opening number' heard given' operations := by
  obtain ⟨rest, queued, _⟩ := conversed.reached
  have granted := ((grants_append start [] [] _ _).mp conversed.granted).1
  rw [List.append_assoc] at queued
  exact ⟨_, granted, _, queued, rfl⟩

/-- A conversation goes on by a request and its answer exactly when the request is sent and the
answer received where it had stopped. -/
theorem exchange {next : UInt32} {request : Request} {packet : Packet}
    (conversed : start.Converses middle opening number heard given operations)
    (fits : request.Fits) (follows : number + 1 = next) :
    (∃ count sent, send request middle = .ok count sent ∧ readResponse sent = .ok packet after) ↔
      ∃ answer : Answer next, packet = answer.packet ∧
        start.Converses after opening next (heard ++ answer.bytes opening.order)
          (given ++ request.frame opening.order opening.version next)
          (operations ++ answer.operations) := by
  obtain ⟨granted, left, queued, rfl⟩ := conversed
  rw [send_readResponse_eq_ok follows]
  constructor
  · rintro ⟨frame, answer, rest, encoded, granted', queued', rfl, rfl⟩
    have queued' : left = answer.bytes opening.order ++ rest := queued'
    rw [Request.encode_of_fits fits] at encoded
    cases encoded
    have both : start.Grants (operations ++ answer.operations) :=
      (grants_append start left given _ _).mpr ⟨granted, granted'⟩
    refine ⟨answer, rfl, both, rest, ?_, ?_⟩
    · rw [queued, queued']
      exact (List.append_assoc _ _ _).symm
    · simp [reach, advance]
  · rintro ⟨answer, rfl, both, rest, queued', rfl⟩
    have granted' := ((grants_append start left given _ _).mp both).2
    rw [queued, List.append_assoc] at queued'
    refine ⟨_, answer, rest, Request.encode_of_fits fits _ _ _, granted',
      List.append_cancel_left queued', rfl, ?_⟩
    simp [reach, advance]

end Converses

end Channel

namespace Login

open Channel

/-- The prelude is exchanged exactly when the server announces itself. -/
theorem exchangePrelude_eq_ok {opening : Prelude} {start after : Channel} :
    exchangePrelude start = .ok opening after ↔
      ∃ greeting : Greeting, greeting.opening = opening ∧
        start.Converses after opening start.requestCount greeting.words magic
          Greeting.operations := by
  simp only [exchangePrelude, Action.bind_eq_ok, sendRaw_eq_ok (show magic ≠ [] by decide),
    readRaw_eq_ok (show 0 < 1 by decide), readRaw_eq_ok (show 0 < 2 by decide),
    Action.modify_eq_ok, Action.pure_eq_ok]
  constructor
  · intro h
    obtain ⟨_, _, ⟨⟨writes, flushes, -⟩, rfl⟩, first, _, h⟩ := h
    obtain ⟨⟨⟨reads, -⟩, rest, queued, length, rfl⟩, _, _, rfl, second, _, h⟩ := h
    obtain ⟨⟨⟨reads', -⟩, rest', rfl, length', rfl⟩, third, _, h⟩ := h
    obtain ⟨⟨⟨reads'', -⟩, rest'', rfl, length'', rfl⟩, _, _, rfl, rfl, rfl⟩ := h
    -- The two single bytes are the flag and the version; the word after them is in the order that
    -- the flag announces.
    obtain ⟨flag, rfl⟩ := List.length_eq_one_iff.mp length
    obtain ⟨version, rfl⟩ := List.length_eq_one_iff.mp length'
    have granted : start.Grants Greeting.operations :=
      ⟨writes, flushes, reads, reads', reads'', trivial⟩
    refine ⟨⟨_, flag :: version :: third, flag, _, ?_, rfl, rfl⟩, rfl, granted, rest'', queued, ?_⟩
    · rw [ByteOrder.u16_ofU16 _ length'']
      rfl
    · simp [reach, advance, Greeting.operations, sending]
  · rintro ⟨greeting, rfl, ⟨writes, flushes, reads, reads', reads'', -⟩, rest, queued, rfl⟩
    obtain ⟨flag, word, split, announced, flagged⟩ := greeting.announced
    have ordered : greeting.opening.order = .ofFlag flag := announced
    have length := greeting.opening.order.length_u16 word
    rw [split] at queued
    refine ⟨(), _, ⟨⟨writes, flushes, trivial⟩, rfl⟩,
      [flag], _, ⟨⟨reads, trivial⟩, _, queued, rfl, rfl⟩, (), _, rfl,
      [greeting.opening.version], _, ⟨⟨reads', trivial⟩, _, rfl, rfl, rfl⟩,
      greeting.opening.order.u16 word, _, ⟨⟨reads'', trivial⟩, rest, rfl, length, rfl⟩, (), _, rfl,
      ?_, ?_⟩
    · simp [← ordered, ← flagged]
    · simp [reach, advance, Greeting.operations, sending, ordered]

/-- After a greeting the handshake is accepted exactly when the server says so. -/
theorem handshake_eq_ok {greeting : Greeting} {start middle after : Channel}
    (greeted : start.Converses middle greeting.opening 0 greeting.words magic
      Greeting.operations) :
    handshake greeting.opening middle = .ok () after ↔
      ∃ acceptance : Acceptance, acceptance.toGreeting = greeting ∧
        start.Converses after greeting.opening 1 acceptance.bytes greeting.script
          acceptance.operations := by
  have fits : greeting.request.Fits := trivial
  constructor
  · intro h
    obtain ⟨_, waiting, opened, h⟩ := Action.bind_eq_ok.mp h
    obtain ⟨packet, answered, received, h⟩ := Action.bind_eq_ok.mp h
    obtain ⟨payload, _, checking, ended⟩ := Action.bind_eq_ok.mp h
    obtain ⟨count, _, sent, told⟩ := Action.bind_eq_ok.mp opened
    obtain ⟨-, rfl⟩ := Action.pure_eq_ok.mp told
    obtain ⟨-, rfl⟩ := Action.pure_eq_ok.mp ended
    obtain ⟨checked, rfl⟩ := ofExcept_eq_ok.mp checking
    obtain ⟨success, -⟩ := check_eq_ok.mp checked
    obtain ⟨answer, rfl, conversed⟩ :=
      (greeted.exchange fits rfl).mp ⟨count, _, sent, received⟩
    exact ⟨⟨greeting, answer, success⟩, rfl, conversed⟩
  · rintro ⟨acceptance, rfl, conversed⟩
    obtain ⟨count, waiting, sent, received⟩ :=
      (greeted.exchange fits rfl).mpr ⟨acceptance.handshake, rfl, conversed⟩
    have opened : sendHandshake acceptance.opening.requestFlag middle = .ok () waiting :=
      Action.bind_of_ok sent
    have checked : check acceptance.handshake.packet 0 acceptance.opening.order =
        .ok acceptance.handshake.packet.payload := check_eq_ok.mpr ⟨acceptance.handshake_ok, rfl⟩
    rw [handshake, Action.bind_of_ok opened, Action.bind_of_ok received, checked]
    rfl

/-- After the handshake the challenge is accepted exactly when the server says a good one. -/
theorem authenticate_eq_ok {acceptance : Acceptance} {params : ConnectParams} {key : ClientKey}
    {challenge : Challenge} {start middle after : Channel} (idle : start.inFlight = false)
    (accepted : start.Converses middle acceptance.opening 1 acceptance.bytes
      acceptance.toGreeting.script acceptance.operations) :
    authenticate params key acceptance.opening middle = .ok challenge after ↔
      ∃ invited : Invitation key, invited.toAcceptance = acceptance ∧
        invited.challenge = challenge ∧
        start.Converses after acceptance.opening 2 invited.bytes (acceptance.script params key)
          invited.operations := by
  have unmarked : middle.inFlight = false := accepted.inFlight_eq.trans idle
  have fits : (acceptance.request params key).Fits := trivial
  constructor
  · intro h
    obtain ⟨packet, _, tripped, h⟩ := Action.bind_eq_ok.mp h
    obtain ⟨payload, _, checking, h⟩ := Action.bind_eq_ok.mp h
    obtain ⟨challenge, _, parsing, last⟩ := Action.bind_eq_ok.mp h
    obtain ⟨checked, rfl⟩ := ofExcept_eq_ok.mp checking
    obtain ⟨success, rfl⟩ := check_eq_ok.mp checked
    obtain ⟨parsed, rfl⟩ := ofExcept_eq_ok.mp parsing
    have laidOut := parse_readChallenge_eq_ok.mp parsed
    have exchanged := (roundTrip_eq_ok_iff_of_idle unmarked).mp tripped
    obtain ⟨answer, rfl, conversed⟩ := (accepted.exchange fits rfl).mp exchanged
    split at last
    · rename_i same
      obtain ⟨rfl, rfl⟩ := Action.pure_eq_ok.mp last
      have echoed : key.bytes <+: challenge.scramble := same ▸ List.take_prefix _ _
      exact ⟨⟨acceptance, answer, success, challenge, laidOut, echoed⟩, rfl, rfl, conversed⟩
    · exact absurd last Action.throw_ne_ok
  · rintro ⟨invited, rfl, rfl, conversed⟩
    have same : invited.challenge.scramble.take clientKeySize = key.bytes := by
      rw [← key.size_eq, ← List.prefix_iff_eq_take.mp invited.echoed]
    have exchanged :=
      (accepted.exchange fits rfl).mpr ⟨invited.invitation, rfl, conversed⟩
    have tripped := (roundTrip_eq_ok_iff_of_idle unmarked).mpr exchanged
    have checked : check invited.invitation.packet 0 invited.opening.order =
        .ok invited.invitation.packet.payload := check_eq_ok.mpr ⟨invited.invitation_ok, rfl⟩
    have parsed := parse_readChallenge_eq_ok.mpr invited.challenge_laidOut
    apply (Action.bind_of_ok tripped).trans
    apply (Action.bind_of_ok (ofExcept_eq_ok.mpr ⟨checked, rfl⟩)).trans
    apply (Action.bind_of_ok (ofExcept_eq_ok.mpr ⟨parsed, rfl⟩)).trans
    rw [if_pos same]
    rfl

/-- After the challenge the login succeeds exactly when the server accepts the proof and its
signature is right. -/
theorem prove_eq_ok {params : ConnectParams} {key : ClientKey} {zone : Int16}
    {invited : Invitation key} {reply : LoginReply} {start middle after : Channel}
    (idle : start.inFlight = false)
    (conversed : start.Converses middle invited.opening 2 invited.bytes
      (invited.toAcceptance.script params key) invited.operations) :
    prove params zone invited.opening (invited.digest (Utf8.encode params.password)) middle =
        .ok reply after ↔
      ∃ agreed : Agreement (Utf8.encode params.password) key, agreed.toInvitation = invited ∧
        agreed.reply = reply ∧
        start.Converses after invited.opening 3 agreed.bytes
          (invited.script params zone start.localAddress) agreed.operations := by
  have unmarked : middle.inFlight = false := conversed.inFlight_eq.trans idle
  have fits : (invited.request params zone start.localAddress).Fits := trivial
  constructor
  · intro h
    obtain ⟨_, _, got, h⟩ := Action.bind_eq_ok.mp h
    obtain ⟨packet, _, tripped, h⟩ := Action.bind_eq_ok.mp h
    obtain ⟨payload, _, checking, h⟩ := Action.bind_eq_ok.mp h
    obtain ⟨reply, _, parsing, last⟩ := Action.bind_eq_ok.mp h
    obtain ⟨rfl, rfl⟩ := Action.get_eq_ok.mp got
    obtain ⟨checked, rfl⟩ := ofExcept_eq_ok.mp checking
    obtain ⟨success, rfl⟩ := check_eq_ok.mp checked
    obtain ⟨parsed, rfl⟩ := ofExcept_eq_ok.mp parsing
    have laidOut := parse_readReply_eq_ok.mp parsed
    rw [conversed.localAddress_eq] at tripped
    have exchanged := (roundTrip_eq_ok_iff_of_idle unmarked).mp tripped
    obtain ⟨answer, rfl, concluded⟩ := (conversed.exchange fits rfl).mp exchanged
    split at last
    · rename_i right
      obtain ⟨rfl, rfl⟩ := Action.pure_eq_ok.mp last
      have signed := PasswordDigest.verify_iff.mp right
      rw [Invitation.digest, PasswordDigest.signature_derive] at signed
      exact ⟨⟨invited, answer, success, reply, laidOut, signed⟩, rfl, rfl, concluded⟩
    · exact absurd last Action.throw_ne_ok
  · rintro ⟨agreed, rfl, rfl, concluded⟩
    have exchanged := (conversed.exchange fits rfl).mpr ⟨agreed.agreement, rfl, concluded⟩
    have tripped := (roundTrip_eq_ok_iff_of_idle unmarked).mpr exchanged
    rw [← conversed.localAddress_eq] at tripped
    have checked : check agreed.agreement.packet agreed.opening.version.toUInt32
        agreed.opening.order = .ok agreed.agreement.packet.payload :=
      check_eq_ok.mpr ⟨agreed.agreement_ok, rfl⟩
    have parsed := parse_readReply_eq_ok.mpr agreed.reply_laidOut
    have right := PasswordDigest.verify_iff.mpr agreed.signature_eq
    apply (Action.bind_of_ok (Action.get_apply middle)).trans
    apply (Action.bind_of_ok tripped).trans
    apply (Action.bind_of_ok (ofExcept_eq_ok.mpr ⟨checked, rfl⟩)).trans
    apply (Action.bind_of_ok (ofExcept_eq_ok.mpr ⟨parsed, rfl⟩)).trans
    rw [if_pos right]
    rfl

/-- Before the first request, the exchanges up to the challenge succeed exactly when the server says
what invites a proof. -/
theorem approach_eq_ok {params : ConnectParams} {key : ClientKey} {opening : Prelude}
    {challenge : Challenge} {start after : Channel} (fresh : start.requestCount = 0)
    (idle : start.inFlight = false) :
    approach params key start = .ok (opening, challenge) after ↔
      ∃ invited : Invitation key, invited.opening = opening ∧ invited.challenge = challenge ∧
        start.Converses after opening 2 invited.bytes (invited.toAcceptance.script params key)
          invited.operations := by
  constructor
  · intro h
    obtain ⟨_, _, first, h⟩ := Action.bind_eq_ok.mp h
    obtain ⟨_, _, second, h⟩ := Action.bind_eq_ok.mp h
    obtain ⟨_, _, third, h⟩ := Action.bind_eq_ok.mp h
    cases h
    obtain ⟨greeting, rfl, greeted⟩ := exchangePrelude_eq_ok.mp first
    rw [fresh] at greeted
    obtain ⟨acceptance, rfl, accepted⟩ := (handshake_eq_ok greeted).mp second
    obtain ⟨invited, rfl, rfl, conversed⟩ := (authenticate_eq_ok idle accepted).mp third
    exact ⟨invited, rfl, rfl, conversed⟩
  · rintro ⟨invited, rfl, rfl, conversed⟩
    -- All calls of the conversation pass, so the earlier exchanges ended where it can be cut.
    obtain ⟨accepted', accepted⟩ := conversed.cut 1 invited.toGreeting.script
    obtain ⟨greeted', greeted⟩ := accepted.cut 0 magic
    have first : exchangePrelude start = .ok invited.opening greeted' := by
      rw [exchangePrelude_eq_ok, fresh]
      exact ⟨invited.toGreeting, rfl, greeted⟩
    have second := (handshake_eq_ok greeted).mpr ⟨invited.toAcceptance, rfl, accepted⟩
    have third := (authenticate_eq_ok idle accepted).mpr ⟨invited, rfl, rfl, conversed⟩
    rw [approach, Action.bind_of_ok first, Action.bind_of_ok second, Action.bind_of_ok third]
    rfl

/-- Before the first request, a login gives a session exactly when the server says what both sides
agree on. -/
theorem perform_eq_ok {params : ConnectParams} {key : ClientKey} {zone : Int16} {session : Session}
    {start after : Channel} (fresh : start.requestCount = 0) (idle : start.inFlight = false) :
    perform params key zone start = .ok session after ↔
      ∃ agreed : Agreement (Utf8.encode params.password) key, session = agreed.session ∧
        start.Converses after agreed.opening 3 agreed.bytes
          (agreed.toInvitation.script params zone start.localAddress) agreed.operations := by
  constructor
  · intro h
    obtain ⟨⟨opening, challenge⟩, _, approached, h⟩ := Action.bind_eq_ok.mp h
    obtain ⟨reply, _, proved, h⟩ := Action.bind_eq_ok.mp h
    obtain ⟨rfl, rfl⟩ := Action.pure_eq_ok.mp h
    obtain ⟨invited, rfl, rfl, conversed⟩ := (approach_eq_ok fresh idle).mp approached
    obtain ⟨agreed, rfl, rfl, concluded⟩ := (prove_eq_ok idle conversed).mp proved
    exact ⟨agreed, rfl, concluded⟩
  · rintro ⟨agreed, rfl, concluded⟩
    obtain ⟨invited', conversed⟩ := concluded.cut 2 (agreed.toAcceptance.script params key)
    have approached :=
      (approach_eq_ok fresh idle).mpr ⟨agreed.toInvitation, rfl, rfl, conversed⟩
    have proved := (prove_eq_ok idle conversed).mpr ⟨agreed, rfl, rfl, concluded⟩
    exact (Action.bind_of_ok approached).trans (Action.bind_of_ok proved)

end Login

/-- A login over a transport gives the session of the login over its channel. -/
theorem Connection.loginFrom_eq_ok {zone : Int16} {transport after : Transport} {address : String}
    {params : ConnectParams} {key : ClientKey} {connection : Connection} :
    loginFrom zone transport address params key = .ok connection after ↔
      ∃ session channel,
        Login.perform params key zone (.ofTransport transport address) = .ok session channel ∧
        connection = ⟨channel, session, params, []⟩ ∧ after = channel.transport := by
  unfold loginFrom Login.run
  cases Login.perform params key zone (.ofTransport transport address) with
  | ok session channel =>
    simp only [EStateM.Result.ok.injEq]
    constructor
    · rintro ⟨rfl, rfl⟩
      exact ⟨session, channel, ⟨rfl, rfl⟩, rfl, rfl⟩
    · rintro ⟨_, _, ⟨rfl, rfl⟩, rfl, rfl⟩
      exact ⟨rfl, rfl⟩
  | error stop channel => simp

end SqlWire
