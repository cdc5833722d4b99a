import SqlWire.Proofs.Login.Disclosure

/-!
# What a login shows of the password

Logins that differ in nothing but the password go the same way up to the proof. The frame of the
proof is the same for all of them but for the proof itself, and each gets as far with it as the
others (`logins_differ_in_proof`).
-/
namespace SqlWire

/-- The frame of a login is made of its proof and of bytes in which the proof has no part. -/
theorem Request.exists_frame_login_eq (order : ByteOrder) (version : UInt8) (count : UInt32)
    (user address : Bytes) (zone : Int16) (tenant : Option Bytes) :
    ∃ front back : Bytes, ∀ proof : Bytes, proof.length = 32 →
      (Request.login user proof address zone tenant).frame order version count =
        front ++ proof ++ back := by
  -- The header counts the bytes of the body, so it is that of any other proof of this length.
  let header := (Request.login user (List.replicate 32 0) address zone tenant).header order version
    count
  refine ⟨header.bytes order 0 ++ order.field user ++ order.u32 32,
    List.replicate (padding 32) 0 ++ order.field address ++ order.field userFlag ++
      order.field clientFlag ++ (loginOptions zone).flatMap order.u16 ++ tenantBytes order tenant,
    fun proof length => ?_⟩
  have same : (Request.login user proof address zone tenant).header order version count =
      header := by
    simp [header, Request.header, body, command, length_field, length]
  have field : order.field proof = order.u32 32 ++ proof ++ List.replicate (padding 32) 0 := by
    rw [ByteOrder.field, length]
    rfl
  rw [frame, same, body, field]
  simp only [List.append_assoc]

namespace Channel

/-- The channel after a round trip whose write did not pass. -/
def cutShort (channel : Channel) (frame : Bytes) : Channel :=
  { channel with
    inFlight := true
    requestCount := channel.requestCount + 1
    transport := channel.transport.cutShort frame }

/-- A round trip whose write does not pass stops in one way, whatever was to be sent. -/
theorem roundTrip_of_barred {before : Channel} (idle : before.inFlight = false)
    (barred : before.transport.schedule before.transport.calls .write ≠ .pass) :
    ∃ stop, ∀ request : Request, request.Fits → roundTrip request before =
      .error stop (before.cutShort
        (request.frame before.order before.version (before.requestCount + 1))) := by
  obtain ⟨stop, stopped⟩ := Transport.send_of_barred barred
  refine ⟨stop, fun request fits => ?_⟩
  have encoded := Request.encode_of_fits fits before.order before.version (before.requestCount + 1)
  have some := Request.encode_ne_nil encoded
  let marked : Channel := { before with inFlight := true }
  have sent : send request marked = _ := send_of_encode encoded
  rw [roundTrip_of_idle idle]
  apply Action.bind_of_error
  rw [sent]
  apply Action.bind_of_error
  simp only [sendRaw, onTransport, marked, stopped _ some]
  rfl

end Channel

namespace Login

open Channel

/-- The proof of a password has 32 bytes. -/
theorem length_proof {key : ClientKey} (invited : Invitation key) (password : Bytes) :
    (invited.digest password).proof.length = 32 := PasswordDigest.length_proof_derive _ _ _

/-- Where the write of the proof does not pass, a login stops in one way with any password. -/
theorem perform_of_barred {params : ConnectParams} {key : ClientKey} {invited : Invitation key}
    {start middle : Channel}
    (approached : approach params key start = .ok (invited.opening, invited.challenge) middle)
    (idle : middle.inFlight = false)
    (barred : middle.transport.schedule middle.transport.calls .write ≠ .pass) (zone : Int16) :
    ∃ stop, ∀ password,
      let request := invited.request { params with password } zone middle.localAddress
      perform { params with password } key zone start = .error stop (middle.cutShort
        (request.frame middle.order middle.version (middle.requestCount + 1))) := by
  obtain ⟨stop, stopped⟩ := roundTrip_of_barred idle barred
  refine ⟨stop, fun password => ?_⟩
  rw [← approach_withPassword params key password] at approached
  rw [perform, Action.bind_of_ok approached]
  apply Action.bind_of_error
  rw [prove, Action.bind_of_ok (Action.get_apply middle)]
  exact Action.bind_of_error (stopped _ trivial)

end Login

namespace Connection

open Login

variable {params : ConnectParams} {key : ClientKey} {transport : Transport} {address : String}
  {middle : Channel}

/-- A login that stops before the proof stops in one way with any password. -/
theorem loginFrom_of_approach_eq_error {stop : Interrupt}
    (stopped : approach params key (.ofTransport transport address) = .error stop middle)
    (zone : Int16) (password : String) :
    loginFrom zone transport address { params with password } key =
      .error (loginInterrupt stop) middle.transport := by
  rw [← approach_withPassword params key password] at stopped
  simp only [loginFrom, run, perform_of_approach_eq_error stopped zone]

variable {invited : Invitation key}

/-- A login in which the server invites the proof has sent all that is in front of the proof's
frame, and the bytes of this frame that its write gets to. -/
theorem sent_loginFrom_of_invited
    (approached : approach params key (.ofTransport transport address) =
      .ok (invited.opening, invited.challenge) middle)
    (conversed : (Channel.ofTransport transport address).Converses middle invited.opening 2
      invited.bytes (invited.toAcceptance.script params key) invited.operations) (zone : Int16) :
    let frame := (invited.request params zone address).frame invited.opening.order
      invited.opening.version 3
    (Action.last (loginFrom zone transport address params key)).sent =
      transport.sent ++ (invited.toAcceptance.script params key ++
        frame.take (middle.transport.gets frame.length)) := by
  intro frame
  have idle : middle.inFlight = false := conversed.inFlight_eq
  have next : (invited.request params zone middle.localAddress).frame middle.order middle.version
      (middle.requestCount + 1) = frame := by
    rw [conversed.localAddress_eq]
    obtain ⟨_, _, rfl⟩ := conversed.reached
    rfl
  obtain ⟨taken, moved⟩ := sends_prove invited params zone idle
  rw [next, ← last_perform approached zone] at moved
  rw [last_loginFrom, moved.sent_eq, conversed.moves.sent_eq, List.append_assoc]
  rfl

/-- Logins whose write of the proof gets to nothing end in the same way. -/
theorem exists_loginFrom_of_unwritten
    (approached : approach params key (.ofTransport transport address) =
      .ok (invited.opening, invited.challenge) middle)
    (idle : middle.inFlight = false) {size : Nat} (some : size ≠ 0)
    (none : middle.transport.gets size = 0) (zone : Int16) :
    ∃ stop after, ∀ password,
      loginFrom zone transport address { params with password } key = .error stop after := by
  have barred : middle.transport.schedule middle.transport.calls .write ≠ .pass := by
    intro passes
    rw [Transport.gets, if_pos passes] at none
    exact some none
  rw [Transport.gets, if_neg barred] at none
  obtain ⟨stop, stopped⟩ := perform_of_barred approached idle barred zone
  refine ⟨loginInterrupt stop, middle.transport.cutShort [], fun password => ?_⟩
  simp only [loginFrom, run, stopped password, Channel.cutShort,
    Transport.cutShort_of_partway none]

/-- Logins over one transport that differ in nothing but the password. Either they all end in the
same way before the proof, which they withhold. Or a server invited the proof, and they all sent the
same up to its frame, and of the frame the same number of bytes, if any: if none, they end in the
same way, too. The frame is the same for all passwords but for the 32 bytes of the proof. -/
theorem logins_differ_in_proof (zone : Int16) (transport : Transport) (address : String)
    (params : ConnectParams) (key : ClientKey) :
    let run := fun password => loginFrom zone transport address { params with password } key
    (∃ stop after received sent, (∀ password, run password = .error stop after) ∧
      transport.Moves after received sent ∧ Withholds params key received sent) ∨
    ∃ (invited : Invitation key) (front back : Bytes) (written : Nat),
      (∀ password,
        let request := invited.request { params with password } zone address
        let frame := request.frame invited.opening.order invited.opening.version 3
        let proof := (invited.digest (Utf8.encode password)).proof
        frame = front ++ proof ++ back ∧ proof.length = 32 ∧
        (Action.last (run password)).sent =
          transport.sent ++ (invited.toAcceptance.script params key ++ frame.take written)) ∧
      (written = 0 → ∃ stop after, ∀ password, run password = .error stop after) := by
  intro run
  have fresh : (Channel.ofTransport transport address).requestCount = 0 := rfl
  cases approached : approach params key (.ofTransport transport address) with
  | error stop middle =>
    obtain ⟨received, sent, moved, withheld⟩ := withholds_of_approach_eq_error fresh approached
    exact .inl ⟨loginInterrupt stop, middle.transport, received, sent,
      loginFrom_of_approach_eq_error approached zone, moved, withheld⟩
  | ok reached middle =>
    obtain ⟨opening, challenge⟩ := reached
    obtain ⟨invited, rfl, rfl, conversed⟩ := (approach_eq_ok fresh rfl).mp approached
    obtain ⟨front, back, layout⟩ := Request.exists_frame_login_eq invited.opening.order
      invited.opening.version 3 (Utf8.encode params.user) (Utf8.encode address) zone
      (params.tenant.map Utf8.encode)
    let size := front.length + 32 + back.length
    refine .inr ⟨invited, front, back, middle.transport.gets size, ?_, ?_⟩
    · intro password request frame proof
      have length : proof.length = 32 := length_proof invited _
      have split : frame = front ++ proof ++ back := layout proof length
      have whole : frame.length = size := by
        rw [split, List.length_append, List.length_append, length]
      rw [← approach_withPassword params key password] at approached
      have sent := sent_loginFrom_of_invited approached conversed zone
      refine ⟨split, length, ?_⟩
      rw [← whole]
      exact sent
    · intro none
      have some : size ≠ 0 := by omega
      exact exists_loginFrom_of_unwritten approached conversed.inFlight_eq some none zone

end Connection
end SqlWire
