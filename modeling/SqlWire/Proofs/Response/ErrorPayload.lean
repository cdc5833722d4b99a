import SqlWire.Frame
import SqlWire.Proofs.Reader

/-!
# Errors that the server reports

A payload that reports an error is a code, eight bytes that nobody reads, and a message. Before
protocol version 23 the message takes all that is left and ends at its first zero byte. From then on
its length is announced, and a length that leads past the end, be it only by the filling, is refused
before anything of the message is taken (`readFramed_append`). What is read of a payload is what the
caller's request fails with (`reported_as_sent`).
-/
namespace SqlWire.ErrorPayload

variable {codec : Codec} {version : UInt32}

/-- A message that is not announced is read up to its end, and everything behind it is passed
over. -/
theorem readOpen_append {message tail : Bytes} (zeros : 0 ∉ message) (closing : Closing tail) :
    readOpen codec (message ++ tail) = .ok (codec.decodeText message) [] := by
  have all : Reader.rest (message ++ tail) = .ok (message ++ tail) [] := rfl
  rw [readOpen, Action.bind_of_ok all, takeWhile_append_of_closing zeros closing]
  rfl

/-- A message that is announced is read if it is there with its filling. Otherwise the payload is
refused behind the length, whatever was announced. -/
theorem readFramed_append (codec : Codec) (length : UInt32) (left : Bytes) :
    readFramed codec (codec.order.u32 length ++ left) =
      if left.length < length.toNat + padding length.toNat then
        .error (.protocol (.messageLength (length.toNat + padding length.toNat) left.length)) left
      else
        .ok (codec.decodeText (left.take length.toNat))
          (left.drop (length.toNat + padding length.toNat)) := by
  have announced : Reader.u32 codec.order (codec.order.u32 length ++ left) = .ok length left :=
    Reader.u32_eq_ok.mpr rfl
  have counted : Reader.remaining left = .ok left.length left := rfl
  rw [readFramed, Action.bind_of_ok announced, Action.bind_of_ok counted]
  by_cases short : left.length < length.toNat + padding length.toNat
  · rw [if_pos short, if_pos short]
    rfl
  · have data : Reader.take length.toNat left =
        .ok (left.take length.toNat) (left.drop length.toNat) := by
      apply Reader.take_eq_ok.mpr
      rw [List.take_append_drop, List.length_take]
      exact ⟨rfl, by omega⟩
    have filling : Reader.skip (padding length.toNat) (left.drop length.toNat) =
        .ok () (left.drop (length.toNat + padding length.toNat)) := by
      apply Reader.skip_eq_ok.mpr
      refine ⟨(left.drop length.toNat).take (padding length.toNat), ?_, ?_⟩
      · rw [← List.drop_drop, List.take_append_drop]
      · rw [List.length_take, List.length_drop]
        omega
    rw [if_neg short, if_neg short, Action.bind_of_ok data, Action.bind_of_ok filling]
    rfl

/-- The field of a message is read, and what follows it is left. -/
theorem readFramed_field {message : Bytes} (fits : message.length < UInt32.size)
    (suffix : Bytes) :
    readFramed codec (codec.encodeField message ++ suffix) =
      .ok (codec.decodeText message) suffix := by
  have announced : (UInt32.ofNat message.length).toNat = message.length :=
    UInt32.toNat_ofNat_of_lt' fits
  let fill : Bytes := List.replicate (padding message.length) 0
  have filled : fill.length = padding message.length := List.length_replicate
  have laid : codec.encodeField message ++ suffix =
      codec.order.u32 (UInt32.ofNat message.length) ++ (message ++ (fill ++ suffix)) := by
    simp only [Codec.encodeField, ByteOrder.field, fill, List.append_assoc]
  have enough : ¬ (message ++ (fill ++ suffix)).length <
      message.length + padding message.length := by
    simp only [List.length_append, filled]
    omega
  rw [laid, readFramed_append, announced, if_neg enough, List.take_left, ← List.drop_drop,
    List.drop_left, ← filled, List.drop_left]

/-- Code and reserved bytes are read in every version, and then the message in its layout. -/
theorem read_append {reserved : Bytes} (eight : reserved.length = 8) (code : UInt32)
    (body : Bytes) :
    read version codec (codec.order.u32 code ++ reserved ++ body) =
      (do
        let message ← if version < framedVersion then readOpen codec else readFramed codec
        pure ⟨code, message⟩ : Reader ErrorPayload) body := by
  have coded : Reader.u32 codec.order (codec.order.u32 code ++ reserved ++ body) =
      .ok code (reserved ++ body) := Reader.u32_eq_ok.mpr (List.append_assoc _ _ _)
  have passed : Reader.skip 8 (reserved ++ body) = .ok () body :=
    Reader.skip_eq_ok.mpr ⟨reserved, rfl, eight⟩
  rw [read, Action.bind_of_ok coded, Action.bind_of_ok passed]

/-- The bytes in front of a message that is announced: code, reserved bytes and length. -/
def headSize : Nat := 16

/-- The length that a payload announces for its message. -/
def announcedLength (order : ByteOrder) (payload : Bytes) : Nat :=
  (order.ofU32 ((payload.drop 12).take 4)).toNat

/-- The bytes that a payload announces for its message and the filling. -/
def announcedSize (order : ByteOrder) (payload : Bytes) : Nat :=
  announcedLength order payload + padding (announcedLength order payload)

/-- A payload of sixteen bytes or more begins with a code, reserved bytes and a length. -/
theorem exists_head (order : ByteOrder) {payload : Bytes} (long : headSize ≤ payload.length) :
    ∃ (code length : UInt32) (reserved : Bytes), reserved.length = 8 ∧
      length.toNat = announcedLength order payload ∧
      payload = order.u32 code ++ reserved ++ (order.u32 length ++ payload.drop headSize) := by
  have enough : 16 ≤ payload.length := long
  have coded : (payload.take 4).length = 4 := by
    rw [List.length_take]
    omega
  have eight : ((payload.drop 4).take 8).length = 8 := by
    rw [List.length_take, List.length_drop]
    omega
  have sized : ((payload.drop 12).take 4).length = 4 := by
    rw [List.length_take, List.length_drop]
    omega
  have behind : payload.drop headSize = (payload.drop 12).drop 4 := by rw [List.drop_drop, headSize]
  have middle : payload.drop 12 = (payload.drop 4).drop 8 := by rw [List.drop_drop]
  refine ⟨order.ofU32 (payload.take 4), order.ofU32 ((payload.drop 12).take 4),
    (payload.drop 4).take 8, eight, rfl, ?_⟩
  rw [order.u32_ofU32 coded, order.u32_ofU32 sized, behind, List.take_append_drop, middle,
    List.append_assoc, List.take_append_drop, List.take_append_drop]

/-- From version 23 on, a payload that announces a length is refused exactly if fewer bytes are left
than the message and its filling take, and it is then refused for that. -/
theorem read_eq_error_iff (framed : framedVersion ≤ version) {payload rest : Bytes} {error : Error}
    (long : headSize ≤ payload.length) :
    read version codec payload = .error error rest ↔
      payload.length - headSize < announcedSize codec.order payload ∧
        error = .protocol (.messageLength (announcedSize codec.order payload)
          (payload.length - headSize)) ∧
        rest = payload.drop headSize := by
  obtain ⟨code, length, reserved, eight, announced, parted⟩ := exists_head codec.order long
  have whole : read version codec payload =
      (readFramed codec >>= fun message => pure ⟨code, message⟩ : Reader ErrorPayload)
        (codec.order.u32 length ++ payload.drop headSize) := by
    rw [congrArg (read version codec) parted, read_append eight,
      if_neg (UInt32.not_lt.mpr framed)]
  have left : (payload.drop headSize).length = payload.length - headSize := List.length_drop
  have found := readFramed_append codec length (payload.drop headSize)
  rw [announced, left] at found
  rw [whole, announcedSize]
  by_cases short : payload.length - headSize < announcedLength codec.order payload +
      padding (announcedLength codec.order payload)
  · rw [if_pos short] at found
    rw [Action.bind_of_error found, EStateM.Result.error.injEq]
    constructor
    · rintro ⟨rfl, rfl⟩
      exact ⟨short, rfl, rfl⟩
    · rintro ⟨_, rfl, rfl⟩
      exact ⟨rfl, rfl⟩
  · rw [if_neg short] at found
    rw [Action.bind_of_ok found]
    constructor
    · nofun
    · rintro ⟨overrun, _⟩
      exact absurd overrun short

/-- An answer that reports an error is the error of its payload. -/
theorem check_of_read {packet : Packet} {payload : ErrorPayload} {rest : Bytes}
    (failed : packet.header.result ≠ 0)
    (found : read version codec packet.payload = .ok payload rest) :
    packet.check version codec = .error (.server payload.code payload.message) := by
  have marked : packet.header.isError = true := by simpa [Header.isError] using failed
  rw [Packet.check, if_pos marked, found]
  rfl

/-- An error comes as it was sent. Before version 23 the message is all bytes behind the code and
eight more, up to the end or to the first zero byte, and nothing is left. From then on it is the
content of a field, as far as its length fits the word for it, and what follows is left; and a
payload of sixteen bytes or more is refused, with an error about the protocol that gives both
numbers, exactly if the message announced and its filling take more bytes than are left. An answer
that reports an error fails with the code and the text that are read of its payload. -/
theorem reported_as_sent (codec : Codec) (version : UInt32) :
    (version < framedVersion → ∀ (code : UInt32) (reserved message tail : Bytes),
      reserved.length = 8 → 0 ∉ message → Closing tail →
      read version codec (codec.order.u32 code ++ reserved ++ (message ++ tail)) =
        .ok ⟨code, codec.decodeText message⟩ []) ∧
    (framedVersion ≤ version → ∀ (code : UInt32) (reserved message suffix : Bytes),
      reserved.length = 8 → message.length < UInt32.size →
      read version codec
          (codec.order.u32 code ++ reserved ++ (codec.encodeField message ++ suffix)) =
        .ok ⟨code, codec.decodeText message⟩ suffix) ∧
    (framedVersion ≤ version → ∀ (payload rest : Bytes) (error : Error),
      headSize ≤ payload.length →
      (read version codec payload = .error error rest ↔
        payload.length - headSize < announcedSize codec.order payload ∧
          error = .protocol (.messageLength (announcedSize codec.order payload)
            (payload.length - headSize)) ∧
          rest = payload.drop headSize)) ∧
    (∀ (packet : Packet) (payload : ErrorPayload) (rest : Bytes), packet.header.result ≠ 0 →
      read version codec packet.payload = .ok payload rest →
      packet.check version codec = .error (.server payload.code payload.message)) := by
  refine ⟨?_, ?_, ?_, ?_⟩
  · intro old code reserved message tail eight zeros closing
    rw [read_append eight, if_pos old, Action.bind_of_ok (readOpen_append zeros closing)]
    rfl
  · intro framed code reserved message suffix eight fits
    rw [read_append eight, if_neg (UInt32.not_lt.mpr framed),
      Action.bind_of_ok (readFramed_field fits suffix)]
    rfl
  · intro framed payload rest error long
    exact read_eq_error_iff framed long
  · intro packet payload rest failed found
    exact check_of_read failed found

/-- A message of an old server with bytes behind its end, one in a field, a field that would be
there but for its filling, the greatest length there is, and the answer that carries the field. -/
theorem reported_as_sent_layouts :
    let codec : Codec := ⟨.big, .utf8⟩
    let framed : Bytes := [0, 0, 0, 17, 1, 2, 3, 4, 5, 6, 7, 8, 0, 0, 0, 2, 110, 111, 0, 0, 9]
    let cut : Bytes := [0, 0, 0, 17, 1, 2, 3, 4, 5, 6, 7, 8, 0, 0, 0, 2, 110, 111]
    let wide : Bytes := [0, 0, 0, 17, 1, 2, 3, 4, 5, 6, 7, 8, 255, 255, 255, 255, 110, 111]
    read 22 codec [0, 0, 3, 136, 1, 2, 3, 4, 5, 6, 7, 8, 110, 111, 0, 110] =
        .ok ⟨904, "no"⟩ [] ∧
      read 23 codec framed = .ok ⟨17, "no"⟩ [9] ∧
      read 23 codec cut = .error (.protocol (.messageLength 4 2)) [110, 111] ∧
      read 23 codec wide = .error (.protocol (.messageLength 4294967296 2)) [110, 111] ∧
      Packet.check ⟨⟨37, 20, 1, 0, 23, 0, 0, 4⟩, framed⟩ 23 codec = .error (.server 17 "no") := by
  intro codec framed cut wide
  obtain ⟨opened, _, _, _⟩ := reported_as_sent codec 22
  obtain ⟨_, fielded, refused, failed⟩ := reported_as_sent codec 23
  have reserved : [1, 2, 3, 4, 5, 6, 7, 8].length = 8 := rfl
  have told : codec.decodeText [110, 111] = "no" := by decide +kernel
  have size : announcedSize codec.order wide = 4294967296 := by decide +kernel
  have first := opened (by decide) 904 [1, 2, 3, 4, 5, 6, 7, 8] [110, 111] [0, 110] reserved
    (by decide) (.inr ⟨[110], rfl⟩)
  have second := fielded (by decide) 17 [1, 2, 3, 4, 5, 6, 7, 8] [110, 111] [9] reserved (by decide)
  rw [told] at first second
  refine ⟨first, second, ?_, ?_, ?_⟩
  · exact (refused (by decide) cut _ _ (by decide)).mpr ⟨by decide, rfl, rfl⟩
  · refine (refused (by decide) wide _ _ (by decide)).mpr ⟨by decide, ?_, rfl⟩
    rw [size]
    rfl
  · exact failed ⟨⟨37, 20, 1, 0, 23, 0, 0, 4⟩, framed⟩ _ _ (by decide) second

end SqlWire.ErrorPayload
