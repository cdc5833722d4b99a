import SqlWire.Proofs.Channel

/-!
# Answers in a stream of frames

The answer to a request is read from the frames of the stream up to the first one that ends it.
Frames of other requests stand between its own and leave no trace: the packet is the first of its
own headers and the payloads of its own frames. `readResponse_eq_ok` says when an answer is read and
what reading it leaves behind, in both directions.
-/
namespace SqlWire

namespace Frame

/-- Whether a frame belongs to the answer to the request of a number. -/
def answers (count : UInt32) (frame : Frame) : Bool := frame.header.requestCount == count

/-- Whether a frame is the last of the answer to the request of a number. -/
def ends (count : UInt32) (frame : Frame) : Bool :=
  frame.answers count && !frame.header.hasMore

end Frame

/-- The frames that are read for the answer to the request of a number: all up to the first that
ends the answer. -/
structure Answer (count : UInt32) where
  /-- The frames in front of the last. -/
  front : List Frame
  /-- The frame that ends the answer. -/
  last : Frame
  /-- No frame in front ends the answer. -/
  front_open : ∀ frame ∈ front, frame.ends count = false
  /-- The last frame does. -/
  last_ends : last.ends count = true

namespace Answer

variable {count : UInt32}

/-- All frames that are read. -/
def frames (answer : Answer count) : List Frame := answer.front ++ [answer.last]

/-- The frames of the answer itself. -/
def own (answer : Answer count) : List Frame := answer.frames.filter (Frame.answers count)

/-- The bytes that are read. -/
def bytes (order : ByteOrder) (answer : Answer count) : Bytes := Frame.join order answer.frames

/-- What the answer says: the header of its first frame, and all its payloads. -/
def packet (answer : Answer count) : Packet :=
  ⟨(answer.own.headD answer.last).header, answer.own.flatMap Frame.payload⟩

/-- The answer of one frame. -/
def single (frame : Frame) (ended : frame.ends count = true) : Answer count :=
  ⟨[], frame, by simp, ended⟩

/-- An answer behind a frame that does not end it. -/
def cons (frame : Frame) (opened : frame.ends count = false) (answer : Answer count) :
    Answer count :=
  ⟨frame :: answer.front, answer.last, by simpa [opened] using answer.front_open,
    answer.last_ends⟩

/-- Every answer is one frame, or a frame that does not end it in front of an answer. -/
@[induction_eliminator]
theorem induction {motive : Answer count → Prop}
    (single : ∀ frame ended, motive (single frame ended))
    (cons : ∀ frame opened answer, motive answer → motive (cons frame opened answer))
    (answer : Answer count) : motive answer := by
  obtain ⟨front, last, opened, ended⟩ := answer
  induction front with
  | nil => exact single last ended
  | cons frame rest ih =>
    exact cons frame (opened frame List.mem_cons_self) _
      (ih fun other member => opened other (List.mem_cons_of_mem frame member))

/-- Frames of which one ends the answer begin with the answer. -/
theorem exists_frames_append {frames : List Frame}
    (complete : ∃ frame ∈ frames, frame.ends count = true) :
    ∃ (answer : Answer count) (back : List Frame), frames = answer.frames ++ back := by
  obtain ⟨last, found⟩ := Option.isSome_iff_exists.mp (List.find?_isSome.mpr complete)
  obtain ⟨ended, front, back, rfl, opened⟩ := List.find?_eq_some_iff_append.mp found
  exact ⟨⟨front, last, by simpa using opened, ended⟩, back, by simp [Answer.frames]⟩

/-- The last frame of an answer belongs to it. -/
theorem answers_of_ends {frame : Frame} (ended : frame.ends count = true) :
    frame.answers count = true := by
  simp only [Frame.ends, Bool.and_eq_true] at ended
  exact ended.1

@[simp] theorem frames_single (frame : Frame) (ended : frame.ends count = true) :
    (single frame ended).frames = [frame] := rfl

@[simp] theorem frames_cons (frame : Frame) (opened : frame.ends count = false)
    (answer : Answer count) : (cons frame opened answer).frames = frame :: answer.frames := rfl

/-- An answer has a first frame of its own. -/
theorem exists_head_own (answer : Answer count) : ∃ first, answer.own.head? = some first := by
  have member : answer.last ∈ answer.own := by
    simp [own, frames, answers_of_ends answer.last_ends]
  exact Option.isSome_iff_exists.mp (List.isSome_head?.mpr (List.ne_nil_of_mem member))

/-- An answer says what its own frames say. -/
theorem packet_eq {answer : Answer count} {first : Frame} (head : answer.own.head? = some first) :
    answer.packet = ⟨first.header, answer.own.flatMap Frame.payload⟩ := by
  simp [packet, List.headD_eq_head?_getD, head]

/-- The answer of one frame says what the frame says. -/
theorem packet_single (frame : Frame) (ended : frame.ends count = true) :
    (single frame ended).packet = frame.packet := by
  simp [packet, own, Frame.packet, answers_of_ends ended]

/-- A frame of another request in front changes nothing. -/
theorem packet_cons_of_foreign {frame : Frame} (opened : frame.ends count = false)
    (foreign : frame.answers count = false) (answer : Answer count) :
    (cons frame opened answer).packet = answer.packet := by
  simp [packet, own, cons, frames, foreign]

/-- A frame of the same answer in front gives its header and adds its payload. -/
theorem packet_cons_of_own {frame : Frame} (opened : frame.ends count = false)
    (belongs : frame.answers count = true) (answer : Answer count) :
    (cons frame opened answer).packet =
      ⟨frame.header, frame.payload ++ answer.packet.payload⟩ := by
  simp [packet, own, cons, frames, belongs]

end Answer

namespace Channel

/-- The bytes of a frame are read as what the frame says. -/
theorem packetOf_bytes (order : ByteOrder) (frame : Frame) :
    packetOf order (frame.bytes order) = .ok frame.packet := by
  have read : Header.read order (frame.bytes order) = .ok frame.header frame.payload :=
    Header.read_eq_ok.mpr ⟨frame.reserved, rfl⟩
  simp [packetOf, read, Frame.packet]

/-- A frame is received exactly when two reads pass and a whole frame is at the front. -/
theorem readPacket_eq_ok {packet : Packet} {before after : Channel} :
    readPacket before = .ok packet after ↔
      before.Grants (reading 1) ∧ ∃ (frame : Frame) (rest : Bytes),
        before.transport.inbound = frame.bytes before.order ++ rest ∧
        packet = frame.packet ∧ after = before.advance rest [] 2 := by
  constructor
  · intro h
    obtain ⟨word, middle, first, h⟩ := Action.bind_eq_ok.mp h
    obtain ⟨granted, remaining, queued, length, rfl⟩ := (readRaw_eq_ok (by decide)).mp first
    obtain ⟨channel, same, got, h⟩ := Action.bind_eq_ok.mp h
    obtain ⟨rfl, rfl⟩ := Action.get_eq_ok.mp got
    split at h
    · exact absurd h Action.throw_ne_ok
    · rename_i long
      simp only [order_advance, Header.byteSize, Nat.not_lt] at long h
      obtain ⟨tail, last, second, h⟩ := Action.bind_eq_ok.mp h
      obtain ⟨granted', rest, rfl, size, rfl⟩ := (readRaw_eq_ok (by omega)).mp second
      obtain ⟨parsed, rfl⟩ := ofExcept_eq_ok.mp h
      have announced :
          (before.order.ofU32 ((word ++ tail).take 4)).toNat = (word ++ tail).length := by
        rw [List.take_left' length, List.length_append]
        omega
      obtain ⟨frame, whole⟩ := Frame.exists_bytes_eq
        (by rw [Header.byteSize, ← announced, List.take_left' length]; exact long) announced
      rw [← whole, packetOf_bytes] at parsed
      refine ⟨(grants_append _ _ _ [.read] [.read]).mpr ⟨granted, granted'⟩, frame, rest, ?_, ?_,
        ?_⟩
      · rw [queued, whole, List.append_assoc]
      · exact (Except.ok.inj parsed).symm
      · simp
  · rintro ⟨granted, frame, rest, queued, rfl, rfl⟩
    obtain ⟨tail, whole, size⟩ := frame.exists_bytes_eq_append before.order
    have long := frame.byteSize_le
    obtain ⟨granted, granted'⟩ :=
      (grants_append before (tail ++ rest) [] [.read] [.read]).mp granted
    rw [whole, List.append_assoc] at queued
    have first : readRaw 4 before =
        .ok (before.order.u32 frame.header.size) (before.advance (tail ++ rest) [] 1) :=
      (readRaw_eq_ok (by decide)).mpr ⟨granted, _, queued, before.order.length_u32 _, rfl⟩
    have second : readRaw (frame.header.size.toNat - 4) (before.advance (tail ++ rest) [] 1) =
        .ok tail (before.advance rest [] 2) := by
      rw [Header.byteSize] at long
      exact (readRaw_eq_ok (by omega)).mpr ⟨granted', rest, rfl, size, by simp⟩
    rw [readPacket, Action.bind_of_ok first, Action.bind_of_ok (Action.get_apply _)]
    simp only [order_advance, ByteOrder.ofU32_u32, Nat.not_lt.mpr long, ↓reduceIte]
    rw [Action.bind_of_ok second, ← whole, packetOf_bytes]
    rfl

/-- Reading an answer goes on according to the frame received. -/
theorem readResponseFrom_of_readPacket {first : Option Header} {payload : Bytes} {packet : Packet}
    {before after : Channel} (received : readPacket before = .ok packet after) :
    readResponseFrom first payload before =
      if packet.header.requestCount ≠ after.requestCount then readResponseFrom first payload after
      else if packet.header.hasMore then
        readResponseFrom (some (first.getD packet.header)) (payload ++ packet.payload) after
      else .ok ⟨first.getD packet.header, payload ++ packet.payload⟩ after := by
  rw [readResponseFrom]
  split
  · rename_i stopped
    rw [received] at stopped
    cases stopped
  · rename_i same
    rw [received] at same
    cases same
    rfl

/-- The reads of several frames pass when those of the first do, and then those of the others. -/
theorem grants_reading_succ (channel : Channel) (rest : Bytes) (frames : Nat) :
    channel.Grants (reading (frames + 1)) ↔
      channel.Grants (reading 1) ∧ (channel.advance rest [] 2).Grants (reading frames) :=
  grants_append channel rest [] (reading 1) (reading frames)

/-- What remains of an answer is read when the frames up to its end are at the front and the reads
of all of them pass. A header and a payload that were read before stay in front. -/
theorem readResponseFrom_of_answer {count : UInt32} (answer : Answer count) (rest : Bytes)
    {first : Option Header} {payload : Bytes} {before : Channel}
    (current : before.requestCount = count)
    (granted : before.Grants (reading answer.frames.length))
    (queued : before.transport.inbound = answer.bytes before.order ++ rest) :
    readResponseFrom first payload before =
      .ok ⟨first.getD answer.packet.header, payload ++ answer.packet.payload⟩
        (before.advance rest [] (2 * answer.frames.length)) := by
  -- The header and the payload read so far grow with each frame of the answer's own.
  induction answer generalizing first payload before with
  | single frame ended =>
    have received := readPacket_eq_ok.mpr
      ⟨granted, frame, rest, by simpa [Answer.bytes] using queued, rfl, rfl⟩
    rw [readResponseFrom_of_readPacket received]
    simp only [Frame.ends, Frame.answers, Bool.and_eq_true, beq_iff_eq, Bool.not_eq_true'] at ended
    simp [Frame.packet, Answer.packet_single, ended, current]
  | cons frame opened answer ih =>
    rw [Answer.frames_cons, List.length_cons] at granted
    obtain ⟨now, later⟩ :=
      (grants_reading_succ before (answer.bytes before.order ++ rest) _).mp granted
    have received := readPacket_eq_ok.mpr
      ⟨now, frame, answer.bytes before.order ++ rest, by simpa [Answer.bytes] using queued, rfl,
        rfl⟩
    have unchanged : (before.advance (answer.bytes before.order ++ rest) [] 2).requestCount =
      count := current
    have calls : 2 + 2 * answer.frames.length = 2 * (answer.frames.length + 1) := by omega
    rw [readResponseFrom_of_readPacket received]
    cases belongs : frame.answers count with
    | false =>
      have foreign : frame.packet.header.requestCount ≠ before.requestCount := by
        simpa [Frame.answers, current, Frame.packet] using belongs
      rw [Answer.packet_cons_of_foreign opened belongs, requestCount_advance, if_pos foreign,
        ih unchanged later rfl]
      simp [calls]
    | true =>
      have same : ¬ frame.packet.header.requestCount ≠ before.requestCount := by
        simpa [Frame.answers, current, Frame.packet] using belongs
      have more : frame.packet.header.hasMore = true := by
        simpa [Frame.ends, belongs, Frame.packet] using opened
      rw [Answer.packet_cons_of_own opened belongs, requestCount_advance, if_neg same, if_pos more,
        ih unchanged later rfl]
      simp [calls, Frame.packet]

/-- Where what remains of an answer was read, the frames up to its end were at the front and the
reads of all of them passed. -/
theorem answer_of_readResponseFrom {count : UInt32} {first : Option Header} {payload : Bytes}
    {packet : Packet} {before after : Channel} (current : before.requestCount = count)
    (h : readResponseFrom first payload before = .ok packet after) :
    ∃ (answer : Answer count) (rest : Bytes),
      before.Grants (reading answer.frames.length) ∧
      before.transport.inbound = answer.bytes before.order ++ rest ∧
      packet = ⟨first.getD answer.packet.header, payload ++ answer.packet.payload⟩ ∧
      after = before.advance rest [] (2 * answer.frames.length) := by
  -- Every frame that was received is put in front of the answer that was read behind it.
  fun_induction readResponseFrom first payload before with
  | case1 => cases h
  | case2 first payload before packet middle received other ih =>
    obtain ⟨granted, frame, middle, queued, rfl, rfl⟩ := readPacket_eq_ok.mp received
    obtain ⟨answer, rest, granted', queued', rfl, rfl⟩ := ih current h
    have foreign : frame.answers count = false := by
      simpa [Frame.answers, Frame.packet, current] using other
    have opened : frame.ends count = false := by simp [Frame.ends, foreign]
    refine ⟨.cons frame opened answer, rest, (grants_reading_succ before _ _).mpr
      ⟨granted, granted'⟩, ?_, ?_, ?_⟩
    · simpa [Answer.bytes] using queued.trans (congrArg _ queued')
    · rw [Answer.packet_cons_of_foreign opened foreign]
    · simp [Nat.mul_add, Nat.add_comm]
  | case3 first payload before packet middle received same header joined more ih =>
    obtain ⟨granted, frame, middle, queued, rfl, rfl⟩ := readPacket_eq_ok.mp received
    obtain ⟨answer, rest, granted', queued', rfl, rfl⟩ := ih current h
    have belongs : frame.answers count = true := by
      simpa [Frame.answers, Frame.packet, current] using same
    have opened : frame.ends count = false := by
      simpa [Frame.ends, belongs, Frame.packet] using more
    refine ⟨.cons frame opened answer, rest, (grants_reading_succ before _ _).mpr
      ⟨granted, granted'⟩, ?_, ?_, ?_⟩
    · simpa [Answer.bytes] using queued.trans (congrArg _ queued')
    · rw [Answer.packet_cons_of_own opened belongs]
      simp [joined, header, Frame.packet]
    · simp [Nat.mul_add, Nat.add_comm]
  | case4 first payload before packet middle received same header joined last =>
    obtain ⟨granted, frame, middle, queued, rfl, rfl⟩ := readPacket_eq_ok.mp received
    have ended : frame.ends count = true := by
      have belongs : frame.answers count = true := by
        simpa [Frame.answers, Frame.packet, current] using same
      simpa [Frame.ends, belongs, Frame.packet] using last
    cases h
    exact ⟨.single frame ended, middle, granted, by simpa [Answer.bytes] using queued,
      by rw [Answer.packet_single], rfl⟩

/-- An answer is read exactly when the frames up to its end are at the front and the reads of all of
them pass. Just these frames are taken. -/
theorem readResponse_eq_ok {packet : Packet} {before after : Channel} :
    readResponse before = .ok packet after ↔
      ∃ (answer : Answer before.requestCount) (rest : Bytes),
        before.Grants (reading answer.frames.length) ∧
        before.transport.inbound = answer.bytes before.order ++ rest ∧
        packet = answer.packet ∧ after = before.advance rest [] (2 * answer.frames.length) := by
  constructor
  · intro h
    obtain ⟨answer, rest, granted, queued, rfl, rfl⟩ := answer_of_readResponseFrom rfl h
    exact ⟨answer, rest, granted, queued, rfl, rfl⟩
  · rintro ⟨answer, rest, granted, queued, rfl, rfl⟩
    exact readResponseFrom_of_answer answer rest rfl granted queued

/-- When all reads pass, the answer in front of any bytes is read. -/
theorem readResponse_of_answer {count : UInt32} (answer : Answer count) (rest : Bytes)
    {channel : Channel} (current : channel.requestCount = count)
    (granted : ∀ number, channel.transport.schedule number .read = .pass)
    (queued : channel.transport.inbound = answer.bytes channel.order ++ rest) :
    readResponse channel =
      .ok answer.packet (channel.advance rest [] (2 * answer.frames.length)) :=
  readResponseFrom_of_answer answer rest current (Transport.passes_replicate granted _ _) queued

/-- The answer to the current request in a queue of frames that holds its end: the header of its
first frame, and the payloads of exactly its own frames up to the first that ends it. Just the bytes
up to there are taken. Any other queue whose own frames are the same up to there gives the same
packet, whatever frames of other requests stand anywhere among them, and any other cut of the same
payload gives the same payload. -/
theorem readResponse_joins_own_frames (channel : Channel) (frames : List Frame) (tail : Bytes)
    (granted : ∀ number, channel.transport.schedule number .read = .pass)
    (queued : channel.transport.inbound = Frame.join channel.order frames ++ tail)
    (complete : ∃ frame ∈ frames, frame.ends channel.requestCount = true) :
    ∃ (answer : Answer channel.requestCount) (back : List Frame),
      frames = answer.frames ++ back ∧
      (∃ first, answer.own.head? = some first ∧
        readResponse channel =
          .ok ⟨first.header, answer.own.flatMap Frame.payload⟩
            (channel.advance (Frame.join channel.order back ++ tail) []
              (2 * answer.frames.length))) ∧
      ∀ (other : Channel) (answer' : Answer channel.requestCount) (rest : Bytes),
        other.requestCount = channel.requestCount →
        (∀ number, other.transport.schedule number .read = .pass) →
        other.transport.inbound = answer'.bytes other.order ++ rest →
        (answer'.own = answer.own →
          Action.outcome (readResponse other) = Action.outcome (readResponse channel)) ∧
        (answer'.own.flatMap Frame.payload = answer.own.flatMap Frame.payload →
          ∃ header, Action.outcome (readResponse other) =
            .ok ⟨header, answer.own.flatMap Frame.payload⟩) := by
  obtain ⟨answer, back, rfl⟩ := Answer.exists_frames_append complete
  obtain ⟨first, head⟩ := answer.exists_head_own
  have read := readResponse_of_answer answer (Frame.join channel.order back ++ tail) rfl granted
    (by simpa [Answer.bytes] using queued)
  rw [Answer.packet_eq head] at read
  refine ⟨answer, back, rfl, ⟨first, head, read⟩, ?_⟩
  intro other answer' rest current granted' queued'
  obtain ⟨first', head'⟩ := answer'.exists_head_own
  have read' := readResponse_of_answer answer' rest current granted' queued'
  rw [Answer.packet_eq head'] at read'
  constructor
  · intro same
    rw [same, head] at head'
    obtain rfl := Option.some.inj head'
    rw [read, read', same]
    rfl
  · intro same
    exact ⟨first'.header, by rw [read', same]; rfl⟩

/-- An answer in three frames, of which the second is empty, among frames of the request before. -/
theorem readResponse_joins_own_frames_interleaved :
    let frames : List Frame :=
      [⟨⟨18, 9, 0, 0x0100, 0, 0, 0, 7⟩, 0, [1, 2], rfl⟩,
        ⟨⟨17, 9, 0, 0x0100, 0, 0, 0, 6⟩, 0, [9], rfl⟩,
        ⟨⟨16, 9, 0, 0x0100, 0, 0, 0, 7⟩, 0, [], rfl⟩,
        ⟨⟨17, 9, 0, 0, 0, 0, 0, 6⟩, 0, [9], rfl⟩,
        ⟨⟨17, 9, 0, 0, 0, 0, 0, 7⟩, 0, [3], rfl⟩]
    let channel : Channel :=
      { ofTransport (.ofInbound (Frame.join .big frames ++ [0xAA])) "" with
        order := .big
        requestCount := 7 }
    (∀ number, channel.transport.schedule number .read = .pass) ∧
    channel.transport.inbound = Frame.join channel.order frames ++ [0xAA] ∧
    (∃ frame ∈ frames, frame.ends channel.requestCount = true) ∧
    ∃ packet after, readResponse channel = .ok packet after := by
  intro frames channel
  have complete : ∃ frame ∈ frames, frame.ends channel.requestCount = true := by decide
  obtain ⟨_, _, _, ⟨_, _, read⟩, _⟩ :=
    readResponse_joins_own_frames channel frames [0xAA] (fun _ => rfl) rfl complete
  exact ⟨fun _ => rfl, rfl, complete, _, _, read⟩

end Channel
end SqlWire
