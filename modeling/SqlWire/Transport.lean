import SqlWire.Action
import SqlWire.Error

/-!
# The byte transport

A transport holds the bytes that the peer sent and that nobody read yet, and the bytes sent to the
peer. Every call on it may pass, fail, or never complete, as a schedule decides from the number of
the call; whoever waits for a call that never completes is given up, and what happened before stays.
A call that does not pass may have moved some of its bytes by then. A read takes exactly the bytes
asked for. When fewer are there it takes those, and then finds the stream ended or waits.
-/
namespace SqlWire

/-- How a computation on a transport ends without a result. -/
inductive Interrupt where
  /-- It failed. -/
  | failed (error : Error)
  /-- It waited and was given up. -/
  | waiting
  deriving DecidableEq

/-- What becomes of a call on a transport. -/
inductive Verdict where
  /-- The call does its work. -/
  | pass
  /-- The call fails on its way. -/
  | fail
  /-- The call stops on its way and never completes. -/
  | stall
  deriving DecidableEq, Repr

/-- A transport with its two directions. -/
structure Transport where
  /-- Bytes from the peer that were not read yet. -/
  inbound : Bytes
  /-- Bytes sent to the peer. -/
  sent : Bytes
  /-- Whether the peer sends nothing after the inbound bytes. -/
  ended : Bool
  /-- What becomes of each call. -/
  schedule : Nat → Operation → Verdict
  /-- How many bytes each call moves that does not pass, if it has as many. -/
  partway : Nat → Nat
  /-- Number of calls made. -/
  calls : Nat
  /-- Whether the exchange was ended. -/
  isShut : Bool

namespace Transport

/-- A computation on a transport. -/
abbrev Action := EStateM Interrupt Transport

/-- The schedule by which every call passes. -/
def passAll : Nat → Operation → Verdict := fun _ _ => .pass

/-- A transport on which nothing was sent. -/
def ofInbound (inbound : Bytes) : Transport :=
  ⟨inbound, [], true, passAll, fun _ => 0, 0, false⟩

/-- Add bytes to those sent. -/
def give (bytes : Bytes) (transport : Transport) : Transport :=
  { transport with sent := transport.sent ++ bytes }

/-- Take bytes from the front of those of the peer. -/
def drop (count : Nat) (transport : Transport) : Transport :=
  { transport with inbound := transport.inbound.drop count }

/-- Make a call: go on when the schedule lets it pass. Otherwise `move` is done with as many bytes
as the call gets to. -/
def call (operation : Operation) (move : Nat → Transport → Transport) : Action Unit :=
  fun transport =>
    let counted := { transport with calls := transport.calls + 1 }
    let stopped := move (transport.partway transport.calls) counted
    match transport.schedule transport.calls operation with
    | .pass => .ok () counted
    | .fail => .error (.failed (.transport operation)) stopped
    | .stall => .error .waiting stopped

/-- Send bytes; for no bytes no call is made. -/
def write (bytes : Bytes) : Action Unit := do
  if bytes.isEmpty then pure ()
  else
    call .write fun count => give (bytes.take count)
    modify (give bytes)

/-- Push sent bytes out. -/
def flush : Action Unit := call .flush fun _ => id

/-- Send bytes and push them out. -/
def send (bytes : Bytes) : Action Unit := do
  write bytes
  flush

/-- Take bytes that are there, or fail after taking what there is. -/
def takeInbound (count : Nat) : Action Bytes := fun transport =>
  if count ≤ transport.inbound.length then
    .ok (transport.inbound.take count) { transport with inbound := transport.inbound.drop count }
  else
    .error (if transport.ended then .failed .closed else .waiting) { transport with inbound := [] }

/-- Receive exactly `count` bytes; for no bytes no call is made. -/
def read (count : Nat) : Action Bytes := do
  if count = 0 then pure []
  else
    call .read fun moved => drop (min moved count)
    takeInbound count

/-- End the exchange. -/
def shutdown : Action Unit := do
  call .shutdown fun _ => id
  modify fun transport => { transport with isShut := true }

/-- A call alone leaves the bytes from the peer alone. -/
theorem inbound_of_call {operation : Operation} {move : Nat → Transport → Transport}
    {before after : Transport} (h : call operation move before = .ok () after) :
    after.inbound = before.inbound := by
  unfold call at h
  split at h
  · cases h; rfl
  · cases h
  · cases h

/-- Writing leaves the bytes from the peer alone. -/
theorem inbound_of_write {bytes : Bytes} {before after : Transport}
    (h : write bytes before = .ok () after) : after.inbound = before.inbound := by
  unfold write at h
  split at h
  · cases h; rfl
  · obtain ⟨_, middle, called, added⟩ := Action.bind_eq_ok.mp h
    rw [← Action.modify_eq_ok.mp added, give, ← inbound_of_call called]

/-- Sending leaves the bytes from the peer alone. -/
theorem inbound_of_send {bytes : Bytes} {before after : Transport}
    (h : send bytes before = .ok () after) : after.inbound = before.inbound := by
  obtain ⟨_, middle, written, flushed⟩ := Action.bind_eq_ok.mp h
  rw [inbound_of_call flushed, inbound_of_write written]

/-- A successful read takes exactly the bytes it returns from the front. -/
theorem inbound_of_read {count : Nat} {bytes : Bytes} {before after : Transport}
    (h : read count before = .ok bytes after) :
    before.inbound = bytes ++ after.inbound ∧ bytes.length = count := by
  unfold read at h
  split at h
  · rename_i zero
    cases h
    exact ⟨rfl, zero.symm⟩
  · obtain ⟨_, middle, called, taken⟩ := Action.bind_eq_ok.mp h
    rw [← inbound_of_call called]
    unfold takeInbound at taken
    split at taken
    · rename_i enough
      cases taken
      exact ⟨(List.take_append_drop _ _).symm, List.length_take_of_le enough⟩
    · cases taken

end Transport
end SqlWire
