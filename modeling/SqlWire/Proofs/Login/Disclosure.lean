import SqlWire.Proofs.Login.Dialogue

/-!
# What a login discloses

A login sends its messages in one order, each after the whole answer to the one before, and the
proof of the password only to a server that challenged the holder of the key. A transport may stop
at any call and on the way of any write, so what is said here of the end of every login is true at
every moment of it.
-/
namespace SqlWire

namespace Channel

/-- Exactly these bytes were sent, and bytes of the peer were taken. -/
def Sends (given : Bytes) (before after : Channel) : Prop :=
  ∃ taken, before.transport.Moves after.transport taken given

/-- What is taken afterwards is taken, too. -/
theorem Sends.takes {given : Bytes} {first second third : Channel}
    (sent : Sends given first second) (took : Takes second third) : Sends given first third := by
  obtain ⟨taken, moved⟩ := sent
  obtain ⟨taken', moved'⟩ := took
  exact ⟨taken ++ taken', by simpa using moved.trans moved'⟩

/-- A sequence whose first part sends the bytes and whose second part only takes bytes. -/
theorem Sends.bind {α β : Type} {given : Bytes} {first : Action α} {next : α → Action β}
    {before : Channel} (head : Sends given before (Action.last (first before)))
    (tail : ∀ value, Leaves Takes (next value)) :
    Sends given before (Action.last ((first >>= next) before)) :=
  last_bind_of_takes Sends.takes head tail

/-- However sending bytes ends, those that the write gets to were sent. -/
theorem sends_sendRaw (bytes : Bytes) (before : Channel) :
    Sends (bytes.take (before.transport.gets bytes.length)) before
      (Action.last (sendRaw bytes before)) := ⟨[], moves_sendRaw bytes before⟩

/-- However sending a request ends, the bytes of its frame that the write gets to were sent. -/
theorem sends_send {request : Request} (fits : request.Fits) (before : Channel) :
    let frame := request.frame before.order before.version (before.requestCount + 1)
    Sends (frame.take (before.transport.gets frame.length)) before
      (Action.last (send request before)) := by
  rw [last_send (Request.encode_of_fits fits _ _ _)]
  exact sends_sendRaw _ { before with requestCount := before.requestCount + 1 }

/-- However a round trip of an idle channel ends, the bytes of the request's frame that the write
gets to were sent. -/
theorem sends_roundTrip {request : Request} (fits : request.Fits) {before : Channel}
    (idle : before.inFlight = false) :
    let frame := request.frame before.order before.version (before.requestCount + 1)
    Sends (frame.take (before.transport.gets frame.length)) before
      (Action.last (roundTrip request before)) := by
  have sent := sends_send fits { before with inFlight := true }
  rw [roundTrip_of_idle idle]
  refine sent.bind fun _ => ?_
  refine takes_readResponse.bind Takes.carried fun packet => ?_
  intro middle
  exact ⟨[], .refl _⟩

/-- Of some bytes the first ones were sent, and bytes of the peer were taken. -/
def Offers (bytes : Bytes) (before after : Channel) : Prop :=
  ∃ taken given, given <+: bytes ∧ before.transport.Moves after.transport taken given

/-- Bytes of which some number of the first ones were sent. -/
theorem Sends.offers {bytes : Bytes} {count : Nat} {before after : Channel}
    (sent : Sends (bytes.take count) before after) : Offers bytes before after := by
  obtain ⟨taken, moved⟩ := sent
  exact ⟨taken, _, List.take_prefix count bytes, moved⟩

/-- What is taken afterwards is taken, too. -/
theorem Offers.takes {bytes : Bytes} {first second third : Channel}
    (offered : Offers bytes first second) (took : Takes second third) :
    Offers bytes first third := by
  obtain ⟨taken, given, some, moved⟩ := offered
  obtain ⟨taken', moved'⟩ := Sends.takes ⟨taken, moved⟩ took
  exact ⟨taken', given, some, moved'⟩

/-- A sequence whose first part sends some first ones and whose second part only takes bytes. -/
theorem Offers.bind {α β : Type} {bytes : Bytes} {first : Action α} {next : α → Action β}
    {before : Channel} (head : Offers bytes before (Action.last (first before)))
    (tail : ∀ value, Leaves Takes (next value)) :
    Offers bytes before (Action.last ((first >>= next) before)) :=
  last_bind_of_takes Offers.takes head tail

/-- However a round trip ends, some first bytes of the request's frame were sent. -/
theorem offers_roundTrip {request : Request} (fits : request.Fits) (before : Channel) :
    Offers (request.frame before.order before.version (before.requestCount + 1)) before
      (Action.last (roundTrip request before)) := by
  cases idle : before.inFlight with
  | true =>
    rw [roundTrip_of_inFlight idle]
    exact ⟨[], [], List.nil_prefix, .refl _⟩
  | false => exact (sends_roundTrip fits idle).offers

/-- A request that is offered after a conversation follows all that was given in it. -/
theorem Converses.offers {start middle after : Channel} {opening : Prelude} {number next : UInt32}
    {heard given : Bytes} {operations : List Operation} {request : Request}
    (conversed : start.Converses middle opening number heard given operations)
    (follows : number + 1 = next)
    (offered : Offers (request.frame middle.order middle.version (middle.requestCount + 1)) middle
      after) :
    ∃ received sent, start.transport.Moves after.transport received sent ∧ heard <+: received ∧
      sent <+: given ++ request.frame opening.order opening.version next := by
  subst follows
  obtain ⟨taken, given', some, moved⟩ := offered
  refine ⟨heard ++ taken, given ++ given', conversed.moves.trans moved, List.prefix_append _ _, ?_⟩
  obtain ⟨_, _, rfl⟩ := conversed.reached
  exact (List.prefix_append_right_inj given).mpr some

end Channel

namespace Login

open Channel

/-- What a login may have sent when it has received so much and withholds the proof. -/
inductive Withholds (params : ConnectParams) (key : ClientKey) (received sent : Bytes) : Prop where
  /-- Before the prelude of the server, nothing but the magic. -/
  | silent : sent <+: magic → Withholds params key received sent
  /-- After the prelude, the handshake. -/
  | greeted (greeting : Greeting) : greeting.words <+: received → sent <+: greeting.script →
      Withholds params key received sent
  /-- After the answer to the handshake, the announcement of the user. -/
  | accepted (acceptance : Acceptance) : acceptance.bytes <+: received →
      sent <+: acceptance.script params key → Withholds params key received sent

/-- However exchanging the prelude ends, some first bytes of the magic were sent. -/
theorem offers_exchangePrelude (start : Channel) :
    Offers magic start (Action.last (exchangePrelude start)) := by
  refine (sends_sendRaw magic start).offers.bind fun _ => ?_
  refine (takes_readRaw 1).bind Takes.carried fun flag => ?_
  refine Leaves.bind Takes.carried (takes_modify fun _ => rfl) fun _ => ?_
  refine (takes_readRaw 1).bind Takes.carried fun version => ?_
  refine (takes_readRaw 2).bind Takes.carried fun word => ?_
  exact Leaves.bind Takes.carried (takes_modify fun _ => rfl) fun _ => Takes.carried.refl

/-- However the handshake ends, some first bytes of its frame were sent. -/
theorem offers_handshake (greeting : Greeting) (middle : Channel) :
    Offers (greeting.request.frame middle.order middle.version (middle.requestCount + 1)) middle
      (Action.last (handshake greeting.opening middle)) := by
  have fits : greeting.request.Fits := trivial
  refine Offers.bind ((sends_send fits middle).offers.bind fun _ => Takes.carried.refl) fun _ => ?_
  refine takes_readResponse.bind Takes.carried fun packet => ?_
  exact (leaves_ofExcept Takes.carried _).bind Takes.carried fun _ => Takes.carried.refl

/-- However announcing the user ends, some first bytes of the announcement were sent. -/
theorem offers_authenticate (acceptance : Acceptance) (params : ConnectParams) (key : ClientKey)
    (middle : Channel) :
    Offers ((acceptance.request params key).frame middle.order middle.version
      (middle.requestCount + 1)) middle
      (Action.last (authenticate params key acceptance.opening middle)) := by
  have fits : (acceptance.request params key).Fits := trivial
  refine (offers_roundTrip fits middle).bind fun packet => ?_
  refine (leaves_ofExcept Takes.carried _).bind Takes.carried fun payload => ?_
  refine (leaves_ofExcept Takes.carried _).bind Takes.carried fun challenge => ?_
  split
  · exact Takes.carried.refl
  · exact Takes.carried.refl

/-- However proving the password on an idle channel ends, the bytes of the proof's frame that the
write gets to were sent. -/
theorem sends_prove {key : ClientKey} (invited : Invitation key) (params : ConnectParams)
    (zone : Int16) {middle : Channel} (idle : middle.inFlight = false) :
    let frame := (invited.request params zone middle.localAddress).frame middle.order middle.version
      (middle.requestCount + 1)
    Sends (frame.take (middle.transport.gets frame.length)) middle
      (Action.last (prove params zone invited.opening
        (invited.digest (Utf8.encode params.password)) middle)) := by
  have fits : (invited.request params zone middle.localAddress).Fits := trivial
  refine (sends_roundTrip fits idle).bind fun packet => ?_
  refine (leaves_ofExcept Takes.carried _).bind Takes.carried fun payload => ?_
  refine (leaves_ofExcept Takes.carried _).bind Takes.carried fun reply => ?_
  split
  · exact Takes.carried.refl
  · exact Takes.carried.refl

/-- Where the exchanges up to the challenge stop, the proof is withheld. -/
theorem withholds_of_approach_eq_error {params : ConnectParams} {key : ClientKey}
    {stop : Interrupt} {start after : Channel} (fresh : start.requestCount = 0)
    (h : approach params key start = .error stop after) :
    ∃ received sent, start.transport.Moves after.transport received sent ∧
      Withholds params key received sent := by
  -- Each of the three exchanges either stops, or leaves the conversation in which the next begins.
  rcases Action.bind_eq_error.mp h with stopped | ⟨_, middle, done, h⟩
  · have offered := offers_exchangePrelude start
    rw [stopped] at offered
    obtain ⟨received, sent, some, moved⟩ := offered
    exact ⟨received, sent, moved, .silent some⟩
  obtain ⟨greeting, rfl, greeted⟩ := exchangePrelude_eq_ok.mp done
  rw [fresh] at greeted
  rcases Action.bind_eq_error.mp h with stopped | ⟨_, later, done, h⟩
  · have offered := offers_handshake greeting middle
    rw [stopped] at offered
    obtain ⟨received, sent, moved, heard, some⟩ := greeted.offers rfl offered
    exact ⟨received, sent, moved, .greeted greeting heard some⟩
  obtain ⟨acceptance, rfl, accepted⟩ := (handshake_eq_ok greeted).mp done
  rcases Action.bind_eq_error.mp h with stopped | ⟨_, _, _, stopped⟩
  · have offered := offers_authenticate acceptance params key later
    rw [stopped] at offered
    obtain ⟨received, sent, moved, heard, some⟩ := accepted.offers rfl offered
    exact ⟨received, sent, moved, .accepted acceptance heard some⟩
  · cases stopped

/-- A login stops where the exchanges up to the challenge stop. -/
theorem perform_of_approach_eq_error {params : ConnectParams} {key : ClientKey} {stop : Interrupt}
    {start after : Channel} (stopped : approach params key start = .error stop after)
    (zone : Int16) : perform params key zone start = .error stop after :=
  Action.bind_of_error stopped

/-- The exchanges up to the challenge are the same with any password. -/
theorem approach_withPassword (params : ConnectParams) (key : ClientKey) (password : String) :
    approach { params with password } key = approach params key := rfl

/-- A login that goes on after the challenge leaves what the proof leaves. -/
theorem last_perform {params : ConnectParams} {key : ClientKey} {invited : Invitation key}
    {start middle : Channel}
    (approached : approach params key start = .ok (invited.opening, invited.challenge) middle)
    (zone : Int16) :
    Action.last (perform params key zone start) =
      Action.last (prove params zone invited.opening
        (invited.digest (Utf8.encode params.password)) middle) := by
  rw [perform, Action.bind_of_ok approached]
  cases proved : prove params zone invited.opening
    (invited.digest (Utf8.encode params.password)) middle with
  | ok reply after => exact congrArg Action.last (Action.bind_of_ok proved)
  | error stop after => exact congrArg Action.last (Action.bind_of_error proved)

/-- A login that gives a session has sent all that its proof follows, and the whole proof. -/
theorem script_of_perform_eq_ok {params : ConnectParams} {key : ClientKey} {zone : Int16}
    {invited : Invitation key} {session : Session} {start middle after : Channel}
    (idle : start.inFlight = false)
    (conversed : start.Converses middle invited.opening 2 invited.bytes
      (invited.toAcceptance.script params key) invited.operations)
    (approached : approach params key start = .ok (invited.opening, invited.challenge) middle)
    (performed : perform params key zone start = .ok session after) :
    after.transport.sent =
      start.transport.sent ++ invited.script params zone start.localAddress := by
  obtain ⟨_, _, reached, performed⟩ := Action.bind_eq_ok.mp performed
  rw [approached] at reached
  cases reached
  obtain ⟨reply, _, proved, performed⟩ := Action.bind_eq_ok.mp performed
  obtain ⟨-, rfl⟩ := Action.pure_eq_ok.mp performed
  obtain ⟨agreed, rfl, rfl, concluded⟩ := (prove_eq_ok idle conversed).mp proved
  exact concluded.moves.sent_eq

/-- Before the first request, a login either stops with the proof withheld, and it stops so with any
password, or a server said what invites a proof, and nothing was sent beyond the proof. -/
theorem perform_discloses (params : ConnectParams) (key : ClientKey) (zone : Int16)
    {start : Channel} (fresh : start.requestCount = 0) (idle : start.inFlight = false) :
    ∃ received sent, start.transport.Moves
        (Action.last (perform params key zone start)).transport received sent ∧
      ((Withholds params key received sent ∧
          ∃ stop after, ∀ password,
            perform { params with password } key zone start = .error stop after) ∨
        ∃ invited : Invitation key, invited.bytes <+: received ∧
          sent <+: invited.script params zone start.localAddress ∧
          ∀ session after, perform params key zone start = .ok session after →
            sent = invited.script params zone start.localAddress) := by
  cases approached : approach params key start with
  | error stop middle =>
    obtain ⟨received, sent, moved, withheld⟩ := withholds_of_approach_eq_error fresh approached
    refine ⟨received, sent, ?_, .inl ⟨withheld, stop, middle, fun password => ?_⟩⟩
    · rwa [perform_of_approach_eq_error approached]
    · rw [← approach_withPassword params key password] at approached
      exact perform_of_approach_eq_error approached zone
  | ok reached middle =>
    obtain ⟨opening, challenge⟩ := reached
    obtain ⟨invited, rfl, rfl, conversed⟩ := (approach_eq_ok fresh idle).mp approached
    have unmarked : middle.inFlight = false := conversed.inFlight_eq.trans idle
    have offered := (sends_prove invited params zone unmarked).offers
    rw [conversed.localAddress_eq, ← last_perform approached] at offered
    obtain ⟨received, sent, moved, heard, some⟩ := conversed.offers rfl offered
    refine ⟨received, sent, moved, .inr ⟨invited, heard, some, ?_⟩⟩
    intro session after performed
    have given := moved.sent_eq
    have whole := script_of_perform_eq_ok idle conversed approached performed
    rw [performed, Action.last_ok, whole] at given
    exact (List.append_cancel_left given).symm

end Login

namespace Connection

open Login

/-- A login over a transport leaves it as its exchanges do. -/
theorem last_loginFrom (zone : Int16) (transport : Transport) (address : String)
    (params : ConnectParams) (key : ClientKey) :
    Action.last (loginFrom zone transport address params key) =
      (Action.last (perform params key zone (.ofTransport transport address))).transport := by
  unfold loginFrom run
  cases perform params key zone (.ofTransport transport address) <;> rfl

/-- What a login over a transport has sent when it ends, which may be after any call and in the
midst of any write. It is an initial part of the magic and the frames of the handshake, the
announcement of the user and the proof of the password, and each of these begins only when the
server's whole answer to what is in front of it was received and reports success. The proof begins
only when the answer to the announcement holds a challenge whose scramble begins with the key. A
login that does not come to that fails in the same way with any password, and one that gives a
session has sent it all. -/
theorem loginFrom_withholds_proof (zone : Int16) (transport : Transport) (address : String)
    (params : ConnectParams) (key : ClientKey) :
    ∃ received sent, transport.Moves
        (Action.last (loginFrom zone transport address params key)) received sent ∧
      ((Withholds params key received sent ∧
          ∃ stop after, ∀ password,
            loginFrom zone transport address { params with password } key = .error stop after) ∨
        ∃ invited : Invitation key, invited.bytes <+: received ∧
          sent <+: invited.script params zone address ∧
          ∀ connection after, loginFrom zone transport address params key = .ok connection after →
            sent = invited.script params zone address) := by
  rw [last_loginFrom]
  have fresh : (Channel.ofTransport transport address).requestCount = 0 := rfl
  obtain ⟨received, sent, moved, disclosed⟩ := perform_discloses params key zone fresh rfl
  refine ⟨received, sent, moved, ?_⟩
  rcases disclosed with ⟨withheld, stop, after, stopped⟩ | ⟨invited, heard, some, whole⟩
  · refine .inl ⟨withheld, loginInterrupt stop, after.transport, fun password => ?_⟩
    simp only [loginFrom, run, stopped]
  · refine .inr ⟨invited, heard, some, ?_⟩
    intro connection after succeeded
    obtain ⟨session, channel, performed, _⟩ := loginFrom_eq_ok.mp succeeded
    exact whole session channel performed

end Connection
end SqlWire
