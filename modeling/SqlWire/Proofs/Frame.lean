import SqlWire.Frame

/-!
# Frames as bytes

A frame is what its header announces: sixteen bytes of header and a payload, together as long as the
first word says. Reading a header and writing it are inverse (`Header.read_eq_ok`), any bytes whose
first word is their own length are a frame (`Frame.exists_bytes_eq`), and every request that can be
written is written behind one header (`Request.encode_of_fits`).
-/
namespace SqlWire

/-- The bytes of a header. The one in front of the number of the request is reserved. -/
def Header.bytes (order : ByteOrder) (header : Header) (reserved : UInt8) : Bytes :=
  order.u32 header.size ++ [header.command, header.result] ++ order.u16 header.flags ++
    [header.version, header.version1, header.version2, reserved] ++
    order.u32 header.requestCount

/-- A header takes sixteen bytes. -/
@[simp] theorem Header.length_bytes (order : ByteOrder) (header : Header) (reserved : UInt8) :
    (header.bytes order reserved).length = Header.byteSize := by
  simp [Header.bytes, Header.byteSize]

/-- A header is read exactly when its bytes are at the front. -/
theorem Header.read_eq_ok {order : ByteOrder} {header : Header} {input rest : Bytes} :
    Header.read order input = .ok header rest ↔
      ∃ reserved, input = header.bytes order reserved ++ rest := by
  simp only [Header.read, Action.bind_eq_ok, Reader.u32_eq_ok, Reader.u16_eq_ok, Reader.u8_eq_ok,
    Reader.skip_eq_ok, Action.pure_eq_ok]
  constructor
  · intro h
    obtain ⟨size, _, rfl, command, _, rfl, result, _, rfl, flags, _, rfl, h⟩ := h
    obtain ⟨version, _, rfl, version1, _, rfl, version2, _, rfl, h⟩ := h
    obtain ⟨_, _, ⟨word, rfl, length⟩, requestCount, _, rfl, rfl, rfl⟩ := h
    obtain ⟨reserved, rfl⟩ := List.length_eq_one_iff.mp length
    exact ⟨reserved, by simp [Header.bytes]⟩
  · rintro ⟨reserved, rfl⟩
    refine ⟨header.size, _, ?_, header.command, _, rfl, header.result, _, rfl, header.flags, _,
      rfl, header.version, _, rfl, header.version1, _, rfl, header.version2, _, rfl, (), _,
      ⟨[reserved], rfl, rfl⟩, header.requestCount, rest, rfl, rfl, rfl⟩
    simp [Header.bytes]

/-- Sixteen bytes at the front are a header. -/
theorem Header.exists_bytes_append (order : ByteOrder) {input : Bytes}
    (long : Header.byteSize ≤ input.length) :
    ∃ (header : Header) (reserved : UInt8) (rest : Bytes),
      input = header.bytes order reserved ++ rest := by
  match input, long with
  | size0 :: size1 :: size2 :: size3 :: command :: result :: flags0 :: flags1 :: version ::
      version1 :: version2 :: reserved :: count0 :: count1 :: count2 :: count3 :: rest, _ =>
    refine ⟨⟨order.ofU32 [size0, size1, size2, size3], command, result,
      order.ofU16 [flags0, flags1], version, version1, version2,
      order.ofU32 [count0, count1, count2, count3]⟩, reserved, rest, ?_⟩
    simp [Header.bytes, order.u32_ofU32, order.u16_ofU16]

/-- Writing a header adds its bytes, the reserved one being zero. -/
theorem Header.write_eq (header : Header) (buffer : WriteBuffer) :
    header.write buffer = buffer.append (header.bytes buffer.order 0) := by
  simp [Header.write, Header.bytes, WriteBuffer.u8, WriteBuffer.u16, WriteBuffer.u32,
    WriteBuffer.append]

/-- A header with as many bytes of payload as it announces. -/
structure Frame where
  /-- The header. -/
  header : Header
  /-- The byte of the header that has no meaning. -/
  reserved : UInt8
  /-- Everything after the header. -/
  payload : Bytes
  /-- The announced length is that of the whole frame. -/
  size_eq : header.size.toNat = Header.byteSize + payload.length

namespace Frame

/-- The bytes of a frame. -/
def bytes (order : ByteOrder) (frame : Frame) : Bytes :=
  frame.header.bytes order frame.reserved ++ frame.payload

/-- The bytes of frames, one after the other. -/
def join (order : ByteOrder) (frames : List Frame) : Bytes := frames.flatMap (bytes order)

/-- What a frame says. -/
def packet (frame : Frame) : Packet := ⟨frame.header, frame.payload⟩

@[simp] theorem join_nil (order : ByteOrder) : join order [] = [] := rfl

@[simp] theorem join_cons (order : ByteOrder) (frame : Frame) (rest : List Frame) :
    join order (frame :: rest) = frame.bytes order ++ join order rest := List.flatMap_cons

@[simp] theorem join_append (order : ByteOrder) (first second : List Frame) :
    join order (first ++ second) = join order first ++ join order second :=
  List.flatMap_append

/-- A frame is as long as its header announces. -/
theorem length_bytes (order : ByteOrder) (frame : Frame) :
    (frame.bytes order).length = frame.header.size.toNat := by
  simp [bytes, frame.size_eq]

/-- A frame is at least as long as a header. -/
theorem byteSize_le (frame : Frame) : Header.byteSize ≤ frame.header.size.toNat := by
  rw [frame.size_eq]
  exact Nat.le_add_right _ _

/-- A frame begins with the word of its length. -/
theorem exists_bytes_eq_append (order : ByteOrder) (frame : Frame) :
    ∃ tail : Bytes, frame.bytes order = order.u32 frame.header.size ++ tail ∧
      tail.length = frame.header.size.toNat - 4 := by
  refine ⟨(frame.bytes order).drop 4, ?_, ?_⟩
  · simp [bytes, Header.bytes, List.append_assoc]
  · rw [List.length_drop, length_bytes]

/-- Bytes that begin with their own length, which is at least that of a header, are a frame. -/
theorem exists_bytes_eq {order : ByteOrder} {input : Bytes} (long : Header.byteSize ≤ input.length)
    (announced : (order.ofU32 (input.take 4)).toNat = input.length) :
    ∃ frame : Frame, frame.bytes order = input := by
  obtain ⟨header, reserved, payload, rfl⟩ := Header.exists_bytes_append order long
  have first : (header.bytes order reserved ++ payload).take 4 = order.u32 header.size := by
    simp [Header.bytes]
  rw [first, order.ofU32_u32, List.length_append, Header.length_bytes] at announced
  exact ⟨⟨header, reserved, payload, announced⟩, rfl⟩

end Frame

namespace Request

/-- The bytes of a tenant: its field, or a zero word when there is none. -/
def tenantBytes (order : ByteOrder) : Option Bytes → Bytes
  | some tenant => order.field tenant
  | none => order.u32 0

/-- The bytes of a body. -/
def body (order : ByteOrder) : Request → Bytes
  | .handshake flag => order.u32 flag
  | .authInit user clientKey tenant withTenant =>
    order.field user ++ order.field clientKey ++
      if withTenant then tenantBytes order tenant else []
  | .login user proof address zone tenant =>
    order.field user ++ order.field proof ++ order.field address ++ order.field userFlag ++
      order.field clientFlag ++ (loginOptions zone).flatMap order.u16 ++ tenantBytes order tenant
  | .prepare sql => order.u32 newStatement ++ order.field sql
  | .execute statement sql fetchSize slots =>
    order.u32 statement ++ order.field sql ++ order.u32 fetchSize ++
      order.u16 (UInt16.ofNat slots.length) ++ order.u16 0 ++ slots.flatMap descriptor ++
      slots.flatMap Slot.encoded
  | .fetch statement cursor mode fetchSize =>
    order.u32 statement ++ order.u64 cursor ++ order.u32 mode ++ order.u32 fetchSize
  | .free statement => order.u32 statement
  | .cancel session number => order.u32 session ++ order.u32 number
  | .commit | .rollback | .logout => []
  | .other _ body => body

/-- Whether the number of parameters can be written. -/
def Fits : Request → Prop
  | .execute _ _ _ slots => slots.length ≤ maxParameters
  | _ => True

/-- The tenant is added at the end. -/
theorem writeTenant_eq (buffer : WriteBuffer) (tenant : Option Bytes) :
    writeTenant buffer tenant = buffer.append (tenantBytes buffer.order tenant) := by
  cases tenant with
  | none => rfl
  | some tenant => exact buffer.field_eq_append tenant

/-- A request is written exactly when its parameters can be counted, and then its body is added at
the end. -/
theorem write_eq_ok {request : Request} {buffer written : WriteBuffer} :
    request.write buffer = .ok written ↔
      request.Fits ∧ written = buffer.append (request.body buffer.order) := by
  cases request with
  | execute statement sql fetchSize slots =>
    by_cases many : maxParameters < slots.length
    · simp [write, Fits, many, Nat.not_le_of_lt many]
    · simp [write, Fits, many, Nat.le_of_not_lt many, body, WriteBuffer.u32, WriteBuffer.u16,
        WriteBuffer.field_eq_append, eq_comm]
  | authInit user clientKey tenant withTenant =>
    cases withTenant <;>
      simp [write, Fits, body, writeTenant_eq, WriteBuffer.field_eq_append, eq_comm]
  | _ =>
    simp [write, Fits, body, writeTenant_eq, WriteBuffer.u32, WriteBuffer.u64,
      WriteBuffer.field_eq_append, eq_comm]

/-- A request whose parameters can be counted is written. -/
theorem write_of_fits {request : Request} (fits : request.Fits) (buffer : WriteBuffer) :
    request.write buffer = .ok (buffer.append (request.body buffer.order)) :=
  write_eq_ok.mpr ⟨fits, rfl⟩

/-- A request cannot be written exactly when it executes a statement with more parameters than can
be counted, whatever stands in front of it. -/
theorem write_eq_error {request : Request} {buffer : WriteBuffer} {error : Error} :
    request.write buffer = .error error ↔
      ∃ statement sql fetchSize slots, request = .execute statement sql fetchSize slots ∧
        maxParameters < slots.length ∧ error = .parameter (.tooMany slots.length) := by
  cases request with
  | execute statement sql fetchSize slots =>
    constructor
    · intro refused
      simp only [write] at refused
      split at refused
      · rename_i many
        cases refused
        exact ⟨statement, sql, fetchSize, slots, rfl, many, rfl⟩
      · cases refused
    · rintro ⟨_, _, _, _, same, many, rfl⟩
      cases same
      simp only [write, if_pos many]
  | _ => simp [write]

/-- The header under which a request is sent. -/
def header (request : Request) (order : ByteOrder) (version : UInt8) (count : UInt32) : Header :=
  { Header.request request.command version count with
    size := UInt32.ofNat (Header.byteSize + (request.body order).length) }

/-- The frame in which a request is sent. -/
def frame (request : Request) (order : ByteOrder) (version : UInt8) (count : UInt32) : Bytes :=
  (request.header order version count).bytes order 0 ++ request.body order

/-- A request that can be written is its header and its body. -/
theorem encode_of_fits {request : Request} (fits : request.Fits) (order : ByteOrder)
    (version : UInt8) (count : UInt32) :
    request.encode order version count = .ok (request.frame order version count) := by
  have sized : ((WriteBuffer.empty order).append
      ((Header.request request.command version count).bytes order 0 ++ request.body order)).size =
        Header.byteSize + (request.body order).length := by
    simp [WriteBuffer.size, WriteBuffer.empty]
  simp only [encode, write_of_fits fits, Header.write_eq, bind, Except.bind,
    WriteBuffer.append_append, WriteBuffer.order_append]
  rw [show (WriteBuffer.empty order).order = order from rfl, sized]
  simp only [frame, WriteBuffer.empty, WriteBuffer.append, Header.bytes, List.nil_append,
    List.append_assoc, WriteBuffer.setU32?_zero]
  rfl

/-- Only a request whose parameters can be counted is written. -/
theorem fits_of_encode {request : Request} {order : ByteOrder} {version : UInt8} {count : UInt32}
    {frame : Bytes} (h : request.encode order version count = .ok frame) : request.Fits := by
  cases written : request.write ((Header.request request.command version count).write
      (.empty order)) with
  | ok buffer => exact (write_eq_ok.mp written).1
  | error error => simp [encode, bind, Except.bind, written] at h

/-- A request that cannot be written has no frame. -/
theorem encode_of_write_eq_error {request : Request} {buffer : WriteBuffer} {error : Error}
    (refused : request.write buffer = .error error) (order : ByteOrder) (version : UInt8)
    (count : UInt32) : request.encode order version count = .error error := by
  have again : request.write ((Header.request request.command version count).write
      (.empty order)) = .error error := write_eq_error.mpr (write_eq_error.mp refused)
  simp only [encode, again, bind, Except.bind]

/-- A request that is written takes bytes. -/
theorem encode_ne_nil {request : Request} {order : ByteOrder} {version : UInt8} {count : UInt32}
    {frame : Bytes} (h : request.encode order version count = .ok frame) : frame ≠ [] := by
  rw [encode_of_fits (fits_of_encode h)] at h
  cases h
  simp [frame, Header.bytes]

end Request
end SqlWire
