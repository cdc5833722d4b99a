import SqlWire.Proofs.Answer

/-!
# Requests received

A request announces the size of its body before it writes it, field by field in both cases, and the
two agree (`Request.length_body`). So its frame is as long as its header says, and whoever reads
frames in the same byte order gets back the header and exactly the body, whatever follows
(`Request.received_as_written`).
-/
namespace SqlWire.Request

/-- The bytes of a tenant are as many as announced. -/
theorem length_tenantBytes (order : ByteOrder) (tenant : Option Bytes) :
    (tenantBytes order tenant).length = tenantSize tenant := by
  cases tenant with
  | none => exact order.length_u32 0
  | some tenant => exact length_field order tenant

/-- The descriptors of parameters take four bytes each. -/
theorem length_flatMap_descriptor (slots : List Slot) :
    (slots.flatMap descriptor).length = 4 * slots.length := by
  induction slots with
  | nil => rfl
  | cons slot rest ih =>
    rw [List.flatMap_cons, List.length_append, ih, List.length_cons]
    simp only [descriptor, List.length_cons, List.length_nil]
    omega

/-- The options of a login take two bytes each. -/
theorem length_flatMap_loginOptions (order : ByteOrder) (zone : Int16) :
    ((loginOptions zone).flatMap order.u16).length = 8 * 2 := by
  simp [loginOptions]

/-- The body of a request is as long as announced. -/
theorem length_body (request : Request) (order : ByteOrder) :
    (request.body order).length = request.size := by
  cases request with
  | authInit user clientKey tenant withTenant =>
    cases withTenant <;> simp [body, size, length_field, length_tenantBytes, Nat.add_assoc]
  | login user proof address zone tenant =>
    simp only [body, size, List.length_append, length_field, length_flatMap_loginOptions,
      length_tenantBytes]
  | execute statement sql fetchSize slots =>
    simp only [body, size, List.length_append, length_field, length_flatMap_descriptor,
      ByteOrder.length_u32, ByteOrder.length_u16]
  | handshake | prepare | fetch | free | commit | rollback | logout | cancel | other =>
    simp [body, size, length_field]

/-- The frame of a request takes a header more than its body. -/
theorem length_frame (request : Request) (order : ByteOrder) (version : UInt8) (count : UInt32) :
    (request.frame order version count).length = Header.byteSize + request.size := by
  rw [frame, List.length_append, Header.length_bytes, length_body]

/-- The frame of a request whose length can be announced. -/
def framed (request : Request) (order : ByteOrder) (version : UInt8) (count : UInt32)
    (short : Header.byteSize + request.size < UInt32.size) : Frame where
  header := request.header order version count
  reserved := 0
  payload := request.body order
  size_eq := by
    rw [header, length_body, UInt32.toNat_ofNat_of_lt' short]

/-- A request that is written in a frame whose length can be announced. Its body is as long as it
said. The frame reads as a header, with the length of the frame, the command of the request, no
result, no flags, the version, no minor versions and the number of the request, and behind it the
body. Whoever receives a frame in the same byte order gets that header with exactly the body, and
leaves exactly what follows the frame. -/
theorem received_as_written (request : Request) (order : ByteOrder) (version : UInt8)
    (count : UInt32) (frame : Bytes) (written : request.encode order version count = .ok frame)
    (short : frame.length < UInt32.size) :
    ∃ (body : Bytes) (header : Header),
      request.write (.empty order) = .ok ⟨order, body⟩ ∧ body.length = request.size ∧
      Header.read order frame = .ok header body ∧ header.size.toNat = frame.length ∧
      header = ⟨header.size, request.command, 0, 0, version, 0, 0, count⟩ ∧
      ∀ (channel : Channel) (suffix : Bytes), channel.order = order →
        channel.Grants (Channel.reading 1) → channel.transport.inbound = frame ++ suffix →
        channel.readPacket = .ok ⟨header, body⟩ (channel.advance suffix [] 2) := by
  have fits := fits_of_encode written
  rw [encode_of_fits fits, Except.ok.injEq] at written
  subst written
  rw [length_frame] at short
  let whole := request.framed order version count short
  refine ⟨request.body order, request.header order version count, write_of_fits fits _,
    request.length_body order, Header.read_eq_ok.mpr ⟨0, rfl⟩, ?_, rfl, ?_⟩
  · exact (whole.length_bytes order).symm
  · rintro channel suffix rfl granted queued
    exact Channel.readPacket_eq_ok.mpr ⟨granted, whole, suffix, queued, rfl, rfl⟩

/-- A login in a big-endian session, in front of the first word of another frame. -/
theorem received_as_written_login :
    let login : Request := .login [115, 99, 111, 116, 116] [7, 7, 7] [] (-90) (some [120])
    let channel : Channel := { Channel.ofTransport (.ofInbound
      (login.frame .big 5 9 ++ [0, 0, 0, 16])) "" with order := .big }
    ∃ (body : Bytes) (header : Header),
      login.write (.empty .big) = .ok ⟨.big, body⟩ ∧ body.length = login.size ∧
      channel.readPacket = .ok ⟨header, body⟩ (channel.advance [0, 0, 0, 16] [] 2) := by
  intro login channel
  have fits : login.Fits := trivial
  have written : login.encode .big 5 9 = .ok (login.frame .big 5 9) := encode_of_fits fits _ _ _
  have short : (login.frame .big 5 9).length < UInt32.size := by
    rw [length_frame]
    decide
  have granted : channel.Grants (Channel.reading 1) :=
    Transport.passes_replicate (fun _ => rfl) _ _
  obtain ⟨body, header, inside, long, _, _, _, received⟩ :=
    received_as_written login .big 5 9 _ written short
  exact ⟨body, header, inside, long, received channel [0, 0, 0, 16] rfl granted rfl⟩

end SqlWire.Request
