import SqlWire.Session.Login

/-!
# Payloads of a login

What the client reads in the answers of a login, said of the bytes themselves. The announcement of
the server is four bytes, the challenge may leave out its number of digests, and the reply may carry
bytes that nobody reads. Each reader succeeds exactly on the bytes that are laid out in its way.
-/
namespace SqlWire

/-- Whether bytes announce the byte order, the version and the flag of a prelude. -/
def Prelude.AnnouncedBy (opening : Prelude) (words : Bytes) : Prop :=
  ∃ (flag : UInt8) (word : UInt16),
    words = flag :: opening.version :: opening.order.u16 word ∧
    opening.order = (if flag = 1 then .big else .little) ∧ opening.requestFlag = word ||| 1

/-- Whether a payload is that of a challenge. When fewer than four bytes follow the scramble, they
are passed over and the number of digests is the usual one, a million. -/
def Challenge.LaidOut (order : ByteOrder) (challenge : Challenge) (payload : Bytes) : Prop :=
  challenge.scramble.length < UInt32.size ∧
  ∃ fill rest : Bytes, fill.length = padding challenge.scramble.length ∧
    payload = order.u32 challenge.capacity ++ order.u32 challenge.serverVersion ++
      order.u32 (UInt32.ofNat challenge.scramble.length) ++ challenge.scramble ++ fill ++ rest ∧
    (rest.length < 4 ∧ challenge.iterations = 1000000 ∨
      ∃ more, rest = order.u32 challenge.iterations ++ more)

/-- Whether a payload is that of a reply to the proof. Four bytes in it are reserved, and any may
follow. -/
def LoginReply.LaidOut (order : ByteOrder) (reply : LoginReply) (payload : Bytes) : Prop :=
  reply.signature.length < UInt32.size ∧
  ∃ reserved fill rest : Bytes, reserved.length = 4 ∧
    fill.length = padding reply.signature.length ∧
    payload = order.u32 reply.sessionId ++ order.u32 reply.sessionNumber ++ reserved ++
      order.u32 reply.charset.flag ++ order.u32 (UInt32.ofNat reply.signature.length) ++
      reply.signature ++ fill ++ rest

namespace Login

variable {order : ByteOrder} {payload : Bytes}

/-- A reader finds a value in a payload exactly when it succeeds on it. -/
theorem parse_eq_ok {α : Type} {reader : Reader α} {value : α} :
    parse reader payload = .ok value ↔ ∃ rest, reader payload = .ok value rest := by
  unfold parse
  cases reader payload <;> simp

/-- An answer is accepted exactly when it reports success. -/
theorem check_eq_ok {packet : Packet} {version : UInt32} :
    check packet version order = .ok payload ↔
      packet.header.result = 0 ∧ packet.payload = payload := by
  by_cases success : packet.header.result = 0
  · simp [check, Header.isError, success]
  · simp only [check, Header.isError, success, bne_iff_ne, ne_eq, not_false_eq_true, ↓reduceIte,
      false_and, iff_false]
    split <;> simp

/-- The number of digests is read when its word is there, and else it is the usual one. -/
theorem readIterations_eq_ok {iterations : UInt32} {input left : Bytes} :
    readIterations order input = .ok iterations left ↔
      input.length < 4 ∧ iterations = 1000000 ∧ left = input ∨
        input = order.u32 iterations ++ left := by
  simp only [readIterations, Action.bind_eq_ok, Reader.remaining_eq_ok]
  constructor
  · rintro ⟨_, _, ⟨rfl, rfl⟩, read⟩
    split at read
    · exact .inr (Reader.u32_eq_ok.mp read)
    · rename_i short
      obtain ⟨rfl, rfl⟩ := Action.pure_eq_ok.mp read
      exact .inl ⟨Nat.lt_of_not_le short, rfl, rfl⟩
  · rintro (⟨short, rfl, rfl⟩ | rfl)
    · exact ⟨_, _, ⟨rfl, rfl⟩, by rw [if_neg (Nat.not_le_of_lt short)]; rfl⟩
    · exact ⟨_, _, ⟨rfl, rfl⟩, by rw [if_pos (by simp)]; exact Reader.u32_eq_ok.mpr rfl⟩

/-- Passing over the reserved words never fails. -/
theorem exists_skipReserved_eq_ok (input : Bytes) : ∃ left, skipReserved input = .ok () left := by
  simp only [skipReserved, Action.bind_eq_ok, Reader.remaining_eq_ok]
  by_cases enough : 8 ≤ input.length
  · exact ⟨input.drop 8, _, _, ⟨rfl, rfl⟩, by
      rw [if_pos enough]
      exact Reader.skip_eq_ok.mpr
        ⟨input.take 8, (List.take_append_drop 8 input).symm, List.length_take_of_le enough⟩⟩
  · exact ⟨input, _, _, ⟨rfl, rfl⟩, by rw [if_neg enough]; rfl⟩

/-- A challenge is found exactly in a payload that is laid out for it. -/
theorem parse_readChallenge_eq_ok {challenge : Challenge} :
    parse (readChallenge order) payload = .ok challenge ↔ challenge.LaidOut order payload := by
  simp only [parse_eq_ok, readChallenge, Action.bind_eq_ok, Reader.u32_eq_ok, Reader.field_eq_ok,
    readIterations_eq_ok, Action.pure_eq_ok]
  constructor
  · intro h
    obtain ⟨_, capacity, _, rfl, serverVersion, _, rfl, h⟩ := h
    obtain ⟨scramble, rest, ⟨fits, fill, filled, rfl⟩, h⟩ := h
    obtain ⟨iterations, left, ending, rfl, rfl⟩ := h
    refine ⟨fits, fill, rest, filled, by simp, ?_⟩
    rcases ending with ⟨short, usual, -⟩ | split
    · exact .inl ⟨short, usual⟩
    · exact .inr ⟨left, split⟩
  · rintro ⟨fits, fill, rest, filled, rfl, ending⟩
    obtain ⟨left, ending⟩ : ∃ left, rest.length < 4 ∧
        challenge.iterations = 1000000 ∧ left = rest ∨
          rest = order.u32 challenge.iterations ++ left := by
      rcases ending with ⟨short, usual⟩ | ⟨left, split⟩
      · exact ⟨rest, .inl ⟨short, usual, rfl⟩⟩
      · exact ⟨left, .inr split⟩
    exact ⟨left, challenge.capacity, _, by simp only [List.append_assoc]; rfl,
      challenge.serverVersion, _, rfl, challenge.scramble, rest,
      ⟨fits, fill, filled, by simp only [List.append_assoc]⟩, challenge.iterations, left, ending,
      rfl, rfl⟩

/-- A reply is found exactly in a payload that is laid out for it. -/
theorem parse_readReply_eq_ok {reply : LoginReply} :
    parse (readReply order) payload = .ok reply ↔ reply.LaidOut order payload := by
  simp only [parse_eq_ok, readReply, Action.bind_eq_ok, Reader.u32_eq_ok, Reader.skip_eq_ok,
    Reader.ofExcept_eq_ok, Charset.ofFlag_eq_ok, Reader.field_eq_ok, Action.pure_eq_ok]
  constructor
  · intro h
    obtain ⟨_, sessionId, _, rfl, sessionNumber, _, rfl, h⟩ := h
    obtain ⟨_, _, ⟨reserved, rfl, length⟩, _, _, rfl, charset, _, ⟨rfl, rfl⟩, h⟩ := h
    obtain ⟨signature, rest, ⟨fits, fill, filled, rfl⟩, _, _, -, rfl, rfl⟩ := h
    exact ⟨fits, reserved, fill, rest, length, filled, by simp⟩
  · rintro ⟨fits, reserved, fill, rest, length, filled, rfl⟩
    obtain ⟨left, passed⟩ := exists_skipReserved_eq_ok rest
    exact ⟨left, reply.sessionId, _, by simp only [List.append_assoc]; rfl,
      reply.sessionNumber, _, rfl, (), _, ⟨reserved, rfl, length⟩, _, _, rfl, reply.charset, _,
      ⟨rfl, rfl⟩, reply.signature, rest, ⟨fits, fill, filled, by simp only [List.append_assoc]⟩,
      _, _, passed, rfl, rfl⟩

end Login
end SqlWire
