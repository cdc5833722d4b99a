import SqlWire.Transport

/-!
# What passes over a transport

A transport call that passes moves exactly the bytes it was asked to move, and one that does not
pass moves some of them at most. The first fact is stated as the one state that a send or a read can
succeed in (`send_eq_ok`, `read_eq_ok`), the second as a relation between the states before and
after any call (`Moves`). How many bytes a write gets to depends on their number and not on what
they are (`moves_write`).
-/
namespace SqlWire.Transport

/-- Whether operations that are called one after the other, the first under the given number, all
pass. -/
def Passes (schedule : Nat → Operation → Verdict) : Nat → List Operation → Prop
  | _, [] => True
  | number, operation :: rest =>
    schedule number operation = .pass ∧ Passes schedule (number + 1) rest

/-- Operations pass in order when those in front pass and those behind pass after them. -/
theorem passes_append {schedule : Nat → Operation → Verdict} {number : Nat}
    {first second : List Operation} :
    Passes schedule number (first ++ second) ↔
      Passes schedule number first ∧ Passes schedule (number + first.length) second := by
  induction first generalizing number with
  | nil => simp [Passes]
  | cons operation rest ih =>
    have position : number + 1 + rest.length = number + (rest.length + 1) := by omega
    simp only [List.cons_append, Passes, ih, List.length_cons, position, and_assoc]

/-- Operations that always pass do so in any number. -/
theorem passes_replicate {schedule : Nat → Operation → Verdict} {operation : Operation}
    (passes : ∀ number, schedule number operation = .pass) (number count : Nat) :
    Passes schedule number (List.replicate count operation) := by
  induction count generalizing number with
  | zero => trivial
  | succ count ih => exact ⟨passes number, ih (number + 1)⟩

/-- The transport after a number of calls passed which left the peer's bytes at `rest` and sent
`given`. -/
def advance (transport : Transport) (rest given : Bytes) (count : Nat) : Transport :=
  { transport with
    inbound := rest
    sent := transport.sent ++ given
    calls := transport.calls + count }

section Advance

variable (transport : Transport) (rest given : Bytes) (count : Nat)

@[simp] theorem inbound_advance : (transport.advance rest given count).inbound = rest := rfl

@[simp] theorem sent_advance :
    (transport.advance rest given count).sent = transport.sent ++ given := rfl

@[simp] theorem schedule_advance :
    (transport.advance rest given count).schedule = transport.schedule := rfl

@[simp] theorem calls_advance :
    (transport.advance rest given count).calls = transport.calls + count := rfl

/-- Two stretches of calls are one. -/
@[simp] theorem advance_advance (rest' given' : Bytes) (count' : Nat) :
    (transport.advance rest given count).advance rest' given' count' =
      transport.advance rest' (given ++ given') (count + count') := by
  simp [advance, Nat.add_assoc]

end Advance

/-- A call goes on exactly when the schedule lets it pass, and then it is only counted. -/
theorem call_eq_ok {operation : Operation} {move : Nat → Transport → Transport}
    {value : Unit} {before after : Transport} :
    call operation move before = .ok value after ↔
      before.schedule before.calls operation = .pass ∧
        after = { before with calls := before.calls + 1 } := by
  unfold call
  cases verdict : before.schedule before.calls operation <;> simp [eq_comm]

/-- Sending succeeds exactly when writing and flushing pass. -/
theorem send_eq_ok {bytes : Bytes} (some : bytes ≠ []) {before after : Transport} :
    send bytes before = .ok () after ↔
      Passes before.schedule before.calls [.write, .flush] ∧
        after = before.advance before.inbound bytes 2 := by
  have full : bytes.isEmpty = false := by simpa using some
  simp only [send, write, flush, full, Bool.false_eq_true, ↓reduceIte, Action.bind_eq_ok,
    call_eq_ok, Action.modify_eq_ok, Passes, and_true]
  constructor
  · rintro ⟨_, _, ⟨_, _, ⟨writes, rfl⟩, rfl⟩, flushes, rfl⟩
    exact ⟨⟨writes, flushes⟩, rfl⟩
  · rintro ⟨⟨writes, flushes⟩, rfl⟩
    exact ⟨(), _, ⟨(), _, ⟨writes, rfl⟩, rfl⟩, flushes, rfl⟩

/-- Reading some bytes succeeds exactly when the call passes and the bytes are there. -/
theorem read_eq_ok {count : Nat} (some : 0 < count) {bytes : Bytes} {before after : Transport} :
    read count before = .ok bytes after ↔
      Passes before.schedule before.calls [.read] ∧
        ∃ rest, before.inbound = bytes ++ rest ∧ bytes.length = count ∧
          after = before.advance rest [] 1 := by
  simp only [read, Nat.ne_of_gt some, ↓reduceIte, Action.bind_eq_ok, call_eq_ok, Passes, and_true]
  constructor
  · rintro ⟨_, _, ⟨reads, rfl⟩, taken⟩
    unfold takeInbound at taken
    split at taken
    · rename_i enough
      cases taken
      exact ⟨reads, _, (List.take_append_drop _ _).symm, List.length_take_of_le enough, by
        simp [advance]⟩
    · cases taken
  · rintro ⟨reads, rest, queued, rfl, rfl⟩
    refine ⟨(), _, ⟨reads, rfl⟩, ?_⟩
    simp [takeInbound, queued, advance]

/-- Between two states, `taken` was taken from the front of the peer's bytes and `given` was sent.
-/
structure Moves (before after : Transport) (taken given : Bytes) : Prop where
  /-- The bytes of the peer were taken from the front. -/
  inbound_eq : before.inbound = taken ++ after.inbound
  /-- The bytes sent were added at the end. -/
  sent_eq : after.sent = before.sent ++ given

/-- Where nothing happens, nothing moves. -/
theorem Moves.refl (transport : Transport) : Moves transport transport [] [] :=
  ⟨rfl, (List.append_nil _).symm⟩

/-- What moves in two stretches moves in one. -/
theorem Moves.trans {first second third : Transport} {taken taken' given given' : Bytes}
    (head : Moves first second taken given) (tail : Moves second third taken' given') :
    Moves first third (taken ++ taken') (given ++ given') := by
  constructor
  · rw [head.inbound_eq, tail.inbound_eq, List.append_assoc]
  · rw [tail.sent_eq, head.sent_eq, List.append_assoc]

/-- Calls that passed moved what they left behind. -/
theorem moves_advance {transport : Transport} {taken rest : Bytes}
    (queued : transport.inbound = taken ++ rest) (given : Bytes) (count : Nat) :
    Moves transport (transport.advance rest given count) taken given := ⟨queued, rfl⟩

/-- However a read ends, it sends nothing. -/
theorem moves_read (count : Nat) (before : Transport) :
    ∃ taken, Moves before (Action.last (read count before)) taken [] := by
  unfold read
  split
  · exact ⟨[], .refl before⟩
  · apply Action.last_bind (motive := fun after => ∃ taken, Moves before after taken [])
    · intro stop middle stopped
      unfold call at stopped
      split at stopped
      · cases stopped
      all_goals
        cases stopped
        exact ⟨_, (List.take_append_drop _ _).symm, (List.append_nil _).symm⟩
    · intro _ middle called
      obtain ⟨_, rfl⟩ := call_eq_ok.mp called
      -- When too few bytes are there, all of them are taken, and the read still gives none.
      unfold takeInbound
      split
      · exact ⟨_, (List.take_append_drop _ _).symm, (List.append_nil _).symm⟩
      · exact ⟨before.inbound, (List.append_nil _).symm, (List.append_nil _).symm⟩

/-- How many of so many bytes the next write gets to, if there are as many. -/
def gets (transport : Transport) (size : Nat) : Nat :=
  if transport.schedule transport.calls .write = .pass then size
  else transport.partway transport.calls

/-- The transport after a write of some bytes that did not pass. -/
def cutShort (transport : Transport) (bytes : Bytes) : Transport :=
  give (bytes.take (transport.partway transport.calls))
    { transport with calls := transport.calls + 1 }

/-- A write that gets to no byte leaves the same, whatever was to be sent. -/
theorem cutShort_of_partway {transport : Transport}
    (none : transport.partway transport.calls = 0) (bytes : Bytes) :
    transport.cutShort bytes = transport.cutShort [] := by
  rw [cutShort, cutShort, none, List.take_zero, List.take_zero]

/-- A call that does not pass stops in one way, whatever it was to move. -/
theorem call_of_barred {operation : Operation} {before : Transport}
    (barred : before.schedule before.calls operation ≠ .pass) :
    ∃ stop, ∀ move, call operation move before =
      .error stop (move (before.partway before.calls)
        { before with calls := before.calls + 1 }) := by
  unfold call
  cases verdict : before.schedule before.calls operation with
  | pass => exact absurd verdict barred
  | fail => exact ⟨_, fun move => rfl⟩
  | stall => exact ⟨_, fun move => rfl⟩

/-- A send whose write does not pass stops in one way, whatever was to be sent. -/
theorem send_of_barred {before : Transport}
    (barred : before.schedule before.calls .write ≠ .pass) :
    ∃ stop, ∀ bytes, bytes ≠ [] → send bytes before = .error stop (before.cutShort bytes) := by
  obtain ⟨stop, stopped⟩ := call_of_barred barred
  refine ⟨stop, fun bytes some => ?_⟩
  have full : bytes.isEmpty = false := by simpa using some
  rw [send, write, full, if_neg Bool.false_ne_true]
  exact Action.bind_of_error (Action.bind_of_error (stopped _))

/-- However a write ends, it takes nothing and sends the bytes that it gets to. -/
theorem moves_write (bytes : Bytes) (before : Transport) :
    Moves before (Action.last (write bytes before)) [] (bytes.take (before.gets bytes.length)) := by
  by_cases empty : bytes = []
  · subst empty
    rw [List.take_nil]
    exact .refl before
  have full : bytes.isEmpty = false := by simpa using empty
  by_cases passes : before.schedule before.calls .write = .pass
  · have called : call .write (fun count => give (bytes.take count)) before =
        .ok () { before with calls := before.calls + 1 } := call_eq_ok.mpr ⟨passes, rfl⟩
    rw [gets, if_pos passes, List.take_length, write, full, if_neg Bool.false_ne_true,
      Action.bind_of_ok called]
    exact ⟨rfl, rfl⟩
  · obtain ⟨stop, stopped⟩ := call_of_barred passes
    rw [gets, if_neg passes, write, full, if_neg Bool.false_ne_true,
      Action.bind_of_error (stopped _)]
    exact ⟨rfl, rfl⟩

/-- However a flush ends, nothing moves. -/
theorem moves_flush (before : Transport) : Moves before (Action.last (flush before)) [] [] := by
  unfold flush call
  split <;> exact ⟨rfl, (List.append_nil _).symm⟩

/-- However a send ends, it takes nothing and sends the bytes that its write gets to. -/
theorem moves_send (bytes : Bytes) (before : Transport) :
    Moves before (Action.last (send bytes before)) [] (bytes.take (before.gets bytes.length)) := by
  have moved := moves_write bytes before
  apply Action.last_bind
    (motive := fun after => Moves before after [] (bytes.take (before.gets bytes.length)))
  · intro stop middle stopped
    rwa [stopped] at moved
  · intro _ middle written
    rw [written] at moved
    simpa using moved.trans (moves_flush middle)

end SqlWire.Transport
