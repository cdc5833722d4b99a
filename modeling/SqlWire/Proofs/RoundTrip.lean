import SqlWire.Proofs.Answer

/-!
# Runs of round trips

A round trip either ends with an answer, and then it has sent one whole frame and taken whole
frames, or it leaves the channel marked, and then no later one touches the transport. Between two
round trips the peer may send more, end the stream, and everything about the fate of later calls may
change.
-/
namespace SqlWire.Channel

/-- A marked channel refuses a round trip and stays as it is. -/
theorem roundTrip_of_inFlight {request : Request} {channel : Channel}
    (marked : channel.inFlight = true) :
    roundTrip request channel = .error (.failed (.connection .unusable)) channel := by
  rw [roundTrip, Action.bind_of_ok (Action.get_apply channel), if_pos marked]
  rfl

/-- A channel that is not marked is marked until the answer is there. -/
theorem roundTrip_of_idle {request : Request} {channel : Channel}
    (idle : channel.inFlight = false) :
    roundTrip request channel = (do
      let _ ← send request
      let packet ← readResponse
      modify fun channel => { channel with inFlight := false }
      pure packet : Action Packet) { channel with inFlight := true } := by
  have unmarked : ¬ channel.inFlight = true := Bool.not_eq_true _ ▸ idle
  rw [roundTrip, Action.bind_of_ok (Action.get_apply channel), if_neg unmarked]
  rfl

/-- A request is sent and answered exactly when it can be written, all calls pass and the answer is
there. -/
theorem send_readResponse_eq_ok {request : Request} {packet : Packet} {next : UInt32}
    {before after : Channel} (follows : before.requestCount + 1 = next) :
    (∃ count middle,
      send request before = .ok count middle ∧ readResponse middle = .ok packet after) ↔
      ∃ (frame : Bytes) (answer : Answer next) (rest : Bytes),
        request.encode before.order before.version next = .ok frame ∧
        before.Grants (sending ++ reading answer.frames.length) ∧
        before.transport.inbound = answer.bytes before.order ++ rest ∧
        packet = answer.packet ∧
        after = { before.advance rest frame (2 + 2 * answer.frames.length) with
          requestCount := next } := by
  subst follows
  simp only [send_eq_ok, readResponse_eq_ok]
  constructor
  · rintro ⟨_, _, ⟨sent, frame, encoded, -, rfl⟩, answer, rest, received, queued, rfl, rfl⟩
    exact ⟨frame, answer, rest, encoded, (grants_append _ _ _ _ _).mpr ⟨sent, received⟩, queued,
      rfl, by simp [advance]⟩
  · rintro ⟨frame, answer, rest, encoded, granted, queued, rfl, rfl⟩
    obtain ⟨sent, received⟩ := (grants_append _ before.transport.inbound frame _ _).mp granted
    exact ⟨_, _, ⟨sent, frame, encoded, rfl, rfl⟩, answer, rest, received, queued, rfl,
      by simp [advance]⟩

/-- A round trip gives an answer exactly when the channel is not marked, the request can be written,
all calls pass and the answer is there. -/
theorem roundTrip_eq_ok {request : Request} {packet : Packet} {before after : Channel} :
    roundTrip request before = .ok packet after ↔
      before.inFlight = false ∧ ∃ (frame : Bytes) (answer : Answer (before.requestCount + 1))
        (rest : Bytes),
        request.encode before.order before.version (before.requestCount + 1) = .ok frame ∧
        before.Grants (sending ++ reading answer.frames.length) ∧
        before.transport.inbound = answer.bytes before.order ++ rest ∧
        packet = answer.packet ∧
        after = { before.advance rest frame (2 + 2 * answer.frames.length) with
          requestCount := before.requestCount + 1 } := by
  cases idle : before.inFlight with
  | true => simp [roundTrip_of_inFlight idle]
  | false =>
    simp only [roundTrip_of_idle idle, Action.bind_eq_ok, Action.modify_eq_ok, Action.pure_eq_ok,
      true_and]
    constructor
    · rintro ⟨_, _, sent, _, _, received, _, _, rfl, rfl, rfl⟩
      obtain ⟨frame, answer, rest, encoded, granted, queued, rfl, rfl⟩ :=
        (send_readResponse_eq_ok rfl).mp ⟨_, _, sent, received⟩
      exact ⟨frame, answer, rest, encoded, granted, queued, rfl, by simp [advance, idle]⟩
    · rintro ⟨frame, answer, rest, encoded, granted, queued, rfl, rfl⟩
      have follows : ({ before with inFlight := true } : Channel).requestCount + 1 =
          before.requestCount + 1 := rfl
      obtain ⟨_, _, sent, received⟩ := (send_readResponse_eq_ok follows).mpr
        ⟨frame, answer, rest, encoded, granted, queued, rfl, rfl⟩
      exact ⟨_, _, sent, _, _, received, (), _, rfl, rfl, by simp [advance, ← idle]⟩

/-- A round trip gives what sending the request and receiving the answer gives, if the channel is
not marked. -/
theorem roundTrip_eq_ok_iff_of_idle {request : Request} {packet : Packet} {before after : Channel}
    (idle : before.inFlight = false) :
    roundTrip request before = .ok packet after ↔
      ∃ count middle, send request before = .ok count middle ∧
        readResponse middle = .ok packet after := by
  rw [roundTrip_eq_ok, send_readResponse_eq_ok rfl, and_iff_right idle]

/-- A round trip that gives no answer leaves the channel marked. -/
theorem inFlight_of_roundTrip_eq_error {request : Request} {stop : Interrupt}
    {before after : Channel} (h : roundTrip request before = .error stop after) :
    after.inFlight = true := by
  cases idle : before.inFlight with
  | true =>
    rw [roundTrip_of_inFlight idle] at h
    cases h
    exact idle
  | false =>
    rw [roundTrip_of_idle idle] at h
    -- Only the last step takes the mark away, and nothing stops after it.
    have sent := onlyTransport_send request { before with inFlight := true }
    rcases Action.bind_eq_error.mp h with stopped | ⟨_, middle, done, h⟩
    · rw [stopped] at sent
      exact sent.inFlight_eq
    · have received := onlyTransport_readResponse middle
      rw [done] at sent
      rcases Action.bind_eq_error.mp h with stopped | ⟨_, last, _, h⟩
      · rw [stopped] at received
        exact received.inFlight_eq.trans sent.inFlight_eq
      · rcases Action.bind_eq_error.mp h with stopped | ⟨_, _, _, stopped⟩ <;> cases stopped

/-- What happens around one round trip: what the peer sent by then, and how later calls fare. -/
structure Turn where
  /-- The request. -/
  request : Request
  /-- Bytes that the peer sent since the last round trip. -/
  arrived : Bytes
  /-- Whether the peer sends nothing more. -/
  ended : Bool
  /-- What becomes of each call. -/
  schedule : Nat → Operation → Verdict
  /-- How many bytes each call moves that does not pass. -/
  partway : Nat → Nat

namespace Turn

/-- The channel when a turn begins. -/
def arrange (turn : Turn) (channel : Channel) : Channel :=
  { channel with
    transport := { channel.transport with
      inbound := channel.transport.inbound ++ turn.arrived
      ended := turn.ended
      schedule := turn.schedule
      partway := turn.partway } }

/-- The round trip of a turn. -/
def play (turn : Turn) (channel : Channel) : EStateM.Result Interrupt Channel Packet :=
  roundTrip turn.request (turn.arrange channel)

end Turn

/-- How the round trips of a run ended, and the channel after them. -/
structure Run where
  /-- What each round trip gave. -/
  outcomes : List (Except Interrupt Packet)
  /-- The channel after the last. -/
  last : Channel

/-- Round trips one after the other, whatever each gives. -/
def run : List Turn → Channel → Run
  | [], channel => ⟨[], channel⟩
  | turn :: rest, channel =>
    let result := turn.play channel
    let later := run rest (Action.last result)
    ⟨Action.outcome result :: later.outcomes, later.last⟩

/-- A turn of a marked channel gives an error of the connection and makes no call. -/
theorem Turn.play_of_inFlight (turn : Turn) {channel : Channel}
    (marked : channel.inFlight = true) :
    turn.play channel = .error (.failed (.connection .unusable)) (turn.arrange channel) :=
  roundTrip_of_inFlight marked

/-- After a turn the channel is not marked exactly when it was not before and the turn gave an
answer. -/
theorem Turn.inFlight_last_play (turn : Turn) (channel : Channel) :
    (Action.last (turn.play channel)).inFlight = false ↔
      channel.inFlight = false ∧ ∃ packet, Action.outcome (turn.play channel) = .ok packet := by
  cases result : turn.play channel with
  | ok packet after =>
    obtain ⟨idle, _, _, _, _, _, _, _, rfl⟩ := roundTrip_eq_ok.mp result
    exact ⟨fun _ => ⟨idle, packet, rfl⟩, fun _ => idle⟩
  | error stop after => simp [inFlight_of_roundTrip_eq_error result]

/-- After a run the channel is not marked exactly when it was not before and every round trip gave
an answer. -/
theorem inFlight_last_run (turns : List Turn) (channel : Channel) :
    (run turns channel).last.inFlight = false ↔
      channel.inFlight = false ∧
        ∀ outcome ∈ (run turns channel).outcomes, ∃ packet, outcome = .ok packet := by
  induction turns generalizing channel with
  | nil => simp [run]
  | cons turn rest ih => simp [run, ih, turn.inFlight_last_play, and_assoc]

/-- A run of a marked channel. Every round trip gives an error of the connection; nothing is sent,
nothing is taken of what arrives, no number is used up, and no call is made. -/
theorem run_of_inFlight (turns : List Turn) {channel : Channel}
    (marked : channel.inFlight = true) :
    (∀ outcome ∈ (run turns channel).outcomes,
      outcome = .error (.failed (.connection .unusable))) ∧
    (run turns channel).last.inFlight = true ∧
    (run turns channel).last.requestCount = channel.requestCount ∧
    (run turns channel).last.transport.calls = channel.transport.calls ∧
    (run turns channel).last.transport.sent = channel.transport.sent ∧
    (run turns channel).last.transport.inbound =
      channel.transport.inbound ++ turns.flatMap Turn.arrived := by
  induction turns generalizing channel with
  | nil => simp [run, marked]
  | cons turn rest ih =>
    obtain ⟨outcomes, kept⟩ := @ih (turn.arrange channel) marked
    simp only [run, turn.play_of_inFlight marked, Action.last_error, Action.outcome_error]
    refine ⟨by simpa using outcomes, ?_⟩
    simpa [Turn.arrange] using kept

/-- Requests and their frames under consecutive numbers, which begin anew after the greatest. -/
inductive Consecutive (order : ByteOrder) (version : UInt8) :
    UInt32 → List Request → List Bytes → Prop where
  /-- No request, no frame. -/
  | nil (count : UInt32) : Consecutive order version count [] []
  /-- A request under the number after `count`. -/
  | cons {count : UInt32} {request : Request} {frame : Bytes} {requests : List Request}
      {frames : List Bytes} : request.encode order version (count + 1) = .ok frame →
      Consecutive order version (count + 1) requests frames →
      Consecutive order version count (request :: requests) (frame :: frames)

/-- A run after which the channel is not marked. What was sent are whole frames of all requests
under consecutive numbers, and what was taken of the peer's bytes are whole frames. -/
theorem run_of_unmarked {turns : List Turn} {channel : Channel}
    (unmarked : (run turns channel).last.inFlight = false) :
    ∃ (written : List Bytes) (frames : List Frame),
      Consecutive channel.order channel.version channel.requestCount (turns.map Turn.request)
        written ∧
      (run turns channel).last.transport.sent = channel.transport.sent ++ written.flatten ∧
      channel.transport.inbound ++ turns.flatMap Turn.arrived =
        Frame.join channel.order frames ++ (run turns channel).last.transport.inbound := by
  induction turns generalizing channel with
  | nil => exact ⟨[], [], .nil _, by simp [run], by simp [run]⟩
  | cons turn rest ih =>
    -- The mark never goes away, so there was none after the first turn either.
    have first : (Action.last (turn.play channel)).inFlight = false :=
      ((inFlight_last_run rest _).mp unmarked).1
    obtain ⟨written, frames, consecutive, sent, taken⟩ := ih unmarked
    cases result : turn.play channel with
    | error stop after =>
      rw [result] at first
      exact absurd first (by simp [inFlight_of_roundTrip_eq_error result])
    | ok packet after =>
      obtain ⟨_, frame, answer, left, encoded, _, queued, _, rfl⟩ := roundTrip_eq_ok.mp result
      simp only [run, result, Action.last_ok, List.map_cons] at consecutive sent taken ⊢
      refine ⟨frame :: written, answer.frames ++ frames, .cons encoded consecutive, ?_, ?_⟩
      · rw [sent]
        simp [Turn.arrange]
      · have queued : channel.transport.inbound ++ turn.arrived =
            answer.bytes channel.order ++ left := queued
        calc
          channel.transport.inbound ++ (turn.arrived ++ rest.flatMap Turn.arrived) =
              answer.bytes channel.order ++ (left ++ rest.flatMap Turn.arrived) := by
            rw [← List.append_assoc, queued, List.append_assoc]
          _ = Frame.join channel.order (answer.frames ++ frames) ++ _ := by
            rw [Frame.join_append, List.append_assoc]
            exact congrArg _ taken

/-- A run of round trips, whatever becomes of its calls. The channel stays unmarked exactly as long
as every round trip gives an answer. Once it is marked, every later round trip gives an error of the
connection and touches neither the transport nor the numbers. While it is not, whole frames of the
requests were sent under consecutive numbers, and what was taken from the peer ends where a frame
ends. -/
theorem run_aligned_until_marked (channel : Channel) (turns : List Turn) :
    let start := { channel with inFlight := false }
    let done := run turns start
    (done.last.inFlight = false ↔ ∀ outcome ∈ done.outcomes, ∃ packet, outcome = .ok packet) ∧
    (done.last.inFlight = true → ∀ later : List Turn,
      let more := run later done.last
      (∀ outcome ∈ more.outcomes, outcome = .error (.failed (.connection .unusable))) ∧
      more.last.inFlight = true ∧
      more.last.requestCount = done.last.requestCount ∧
      more.last.transport.calls = done.last.transport.calls ∧
      more.last.transport.sent = done.last.transport.sent ∧
      more.last.transport.inbound =
        done.last.transport.inbound ++ later.flatMap Turn.arrived) ∧
    (done.last.inFlight = false →
      ∃ (written : List Bytes) (frames : List Frame),
        Consecutive start.order start.version start.requestCount (turns.map Turn.request) written ∧
        done.last.transport.sent = start.transport.sent ++ written.flatten ∧
        start.transport.inbound ++ turns.flatMap Turn.arrived =
          Frame.join start.order frames ++ done.last.transport.inbound) := by
  intro start done
  refine ⟨?_, ?_, ?_⟩
  · exact (inFlight_last_run turns start).trans (and_iff_right rfl)
  · intro marked later
    exact run_of_inFlight later marked
  · intro unmarked
    exact run_of_unmarked unmarked

end SqlWire.Channel
