import SqlWire.Proofs.Connection.Custody

/-!
# Statements that are left while requests run

Requests take turns on the channel of a connection. A statement may be left to be freed at any
moment, also while another task has a request under way, for the list of such statements is guarded
apart from the channel. A request that holds the channel takes the whole list, frees one statement
after the other, and is sent itself. However these steps mix, nothing is lost and nothing is freed
twice as long as the channel can be used: what was left is what was freed and what is still to be
freed, in order (`orphans_freed_once_in_order`).
-/
namespace SqlWire.Connection

open Channel

/-- How far the request that holds the channel has come. -/
inductive Stage where
  /-- No request holds the channel. -/
  | idle
  /-- A request holds the channel. -/
  | entered (wanted : Request)
  /-- It took the statements that were left. These it has yet to free before it is sent itself. -/
  | freeing (wanted : Request) (taken : List UInt32)

/-- A connection that several tasks share. -/
structure Shared where
  /-- The connection. -/
  connection : Connection
  /-- How far the request that holds its channel has come. -/
  stage : Stage

/-- What happens on a shared connection. -/
inductive Event where
  /-- A statement is left to be freed. -/
  | left (statement : UInt32)
  /-- A request takes the channel. -/
  | entered (wanted : Request)
  /-- It takes the statements that were left. -/
  | took
  /-- It frees a statement, which some packet answers. -/
  | freed (statement : UInt32) (packet : Packet)
  /-- It is answered and gives the channel back. -/
  | answered (wanted : Request) (packet : Packet)
  /-- It stops in a round trip without an answer. -/
  | stopped (stop : Interrupt)

/-- The request that is sent next. -/
def nextSent (wanted : Request) : List UInt32 → Request
  | [] => wanted
  | statement :: _ => .free statement

/-- One step on a shared connection. A round trip is under way from the step before it, so what
happens meanwhile, which can only be that statements are left, stands in front of it. -/
inductive Step : Shared → Event → Shared → Prop where
  /-- A statement is left, whatever goes on. -/
  | leave {connection : Connection} {stage : Stage} (statement : UInt32) :
      Step ⟨connection, stage⟩ (.left statement) ⟨connection.releaseLater statement, stage⟩
  /-- A request takes the channel. -/
  | enter {connection : Connection} (wanted : Request) :
      Step ⟨connection, .idle⟩ (.entered wanted) ⟨connection, .entered wanted⟩
  /-- It takes the statements that were left. -/
  | take {connection : Connection} {wanted : Request} :
      Step ⟨connection, .entered wanted⟩ .took
        ⟨{ connection with orphans := [] }, .freeing wanted connection.orphans⟩
  /-- It frees the first of them. -/
  | free {connection : Connection} {wanted : Request} {statement : UInt32} {rest : List UInt32}
      {packet : Packet} {channel : Channel} :
      roundTrip (.free statement) connection.channel = .ok packet channel →
      Step ⟨connection, .freeing wanted (statement :: rest)⟩ (.freed statement packet)
        ⟨{ connection with channel }, .freeing wanted rest⟩
  /-- When all of them are freed, it is sent and answered. -/
  | answer {connection : Connection} {wanted : Request} {packet : Packet} {channel : Channel} :
      roundTrip wanted connection.channel = .ok packet channel →
      Step ⟨connection, .freeing wanted []⟩ (.answered wanted packet)
        ⟨{ connection with channel }, .idle⟩
  /-- It stops, and what it had taken is gone. -/
  | stop {connection : Connection} {wanted : Request} {taken : List UInt32} {stop : Interrupt}
      {channel : Channel} :
      roundTrip (nextSent wanted taken) connection.channel = .error stop channel →
      Step ⟨connection, .freeing wanted taken⟩ (.stopped stop) ⟨{ connection with channel }, .idle⟩

/-- Steps one after the other. -/
inductive Run : Shared → List Event → Shared → Prop where
  /-- No step. -/
  | nil (shared : Shared) : Run shared [] shared
  /-- A step in front of others. -/
  | cons {before middle after : Shared} {event : Event} {rest : List Event} :
      Step before event middle → Run middle rest after → Run before (event :: rest) after

namespace Event

/-- The statement that is left. -/
def left? : Event → Option UInt32
  | .left statement => some statement
  | _ => none

/-- The statement that is freed. -/
def freed? : Event → Option UInt32
  | .freed statement _ => some statement
  | _ => none

/-- The round trip that is made. -/
def trip? : Event → Option Trip
  | .freed statement packet => some ⟨.free statement, packet⟩
  | .answered wanted packet => some ⟨wanted, packet⟩
  | _ => none

/-- Whether a request is answered that is not sent on behalf of another. -/
def IsAnswer (event : Event) : Prop := ∃ wanted packet, event = .answered wanted packet

end Event

/-- The statements that are left, in order. -/
def leftIn (events : List Event) : List UInt32 := events.filterMap Event.left?

/-- The statements that are freed, in order. -/
def freedIn (events : List Event) : List UInt32 := events.filterMap Event.freed?

/-- The round trips that are made, in order. -/
def tripsIn (events : List Event) : List Trip := events.filterMap Event.trip?

theorem leftIn_cons (event : Event) (rest : List Event) :
    leftIn (event :: rest) = event.left?.toList ++ leftIn rest := by
  cases event <;> rfl

theorem freedIn_cons (event : Event) (rest : List Event) :
    freedIn (event :: rest) = event.freed?.toList ++ freedIn rest := by
  cases event <;> rfl

theorem tripsIn_cons (event : Event) (rest : List Event) :
    tripsIn (event :: rest) = event.trip?.toList ++ tripsIn rest := by
  cases event <;> rfl

namespace Shared

/-- The statements that were left and not freed yet: those that a request took, and the list. -/
def unsent (shared : Shared) : List UInt32 :=
  match shared.stage with
  | .freeing _ taken => taken ++ shared.connection.orphans
  | _ => shared.connection.orphans

/-- The statements that the request that holds the channel frees before it is sent itself. -/
def due (shared : Shared) : List UInt32 :=
  match shared.stage with
  | .idle => []
  | .entered _ => shared.connection.orphans
  | .freeing _ taken => taken

end Shared

namespace Step

variable {before after : Shared} {event : Event}

/-- A marked channel stays marked. -/
theorem marked (step : Step before event after)
    (marked : before.connection.channel.inFlight = true) :
    after.connection.channel.inFlight = true := by
  cases step with
  | leave => exact marked
  | enter => exact marked
  | take => exact marked
  | free made =>
    rw [roundTrip_of_inFlight marked] at made
    cases made
  | answer made =>
    rw [roundTrip_of_inFlight marked] at made
    cases made
  | stop stopped => exact inFlight_of_roundTrip_eq_error stopped

/-- A step that leaves the connection usable frees the first statement that is to be freed, or
leaves another behind them, or does neither. -/
theorem accounted (step : Step before event after) (usable : after.connection.Usable) :
    before.unsent ++ event.left?.toList = event.freed?.toList ++ after.unsent := by
  cases step with
  | @leave connection stage statement =>
    cases stage with
    | freeing wanted taken => exact List.append_assoc taken connection.orphans [statement]
    | idle => rfl
    | entered wanted => rfl
  | enter => exact List.append_nil _
  | @take connection wanted => rfl
  | free => exact List.append_nil _
  | answer => exact List.append_nil _
  | stop stopped => exact absurd usable (not_usable_of_error stopped)

/-- What is to be freed before the next command is freed or stays so. -/
theorem due_isPrefix (step : Step before event after) (usable : after.connection.Usable) :
    before.due <+: event.freed?.toList ++ after.due := by
  cases step with
  | @leave connection stage statement =>
    cases stage with
    | idle => exact List.nil_prefix
    | entered wanted => exact List.prefix_append connection.orphans [statement]
    | freeing wanted taken => exact List.prefix_rfl
  | enter => exact List.nil_prefix
  | take => exact List.prefix_rfl
  | free => exact List.prefix_rfl
  | answer => exact List.nil_prefix
  | stop stopped => exact absurd usable (not_usable_of_error stopped)

/-- A step makes the round trip of its event and no other. -/
theorem answered (step : Step before event after) (usable : after.connection.Usable) :
    Answered before.connection.channel event.trip?.toList after.connection.channel := by
  cases step with
  | leave => exact .nil _
  | enter => exact .nil _
  | take => exact .nil _
  | free made => exact .single made
  | answer made => exact .single made
  | stop stopped => exact absurd usable (not_usable_of_error stopped)

end Step

namespace Run

variable {before middle after : Shared} {events : List Event}

/-- One step. -/
theorem single {event : Event} (step : Step before event after) : Run before [event] after :=
  .cons step (.nil after)

/-- Steps in front of others. -/
theorem append {others : List Event} (first : Run before events middle)
    (second : Run middle others after) : Run before (events ++ others) after := by
  induction first with
  | nil => exact second
  | cons step _ ih => exact .cons step (ih second)

/-- Steps in front of others end in between. -/
theorem split {others : List Event} (run : Run before (events ++ others) after) :
    ∃ middle, Run before events middle ∧ Run middle others after := by
  induction events generalizing before with
  | nil => exact ⟨before, .nil before, run⟩
  | cons event rest ih =>
    cases run with
    | cons step run =>
      obtain ⟨middle, front, back⟩ := ih run
      exact ⟨middle, .cons step front, back⟩

/-- A connection that is usable in the end was usable all along. -/
theorem usable_before (run : Run before events after) (usable : after.connection.Usable) :
    before.connection.Usable := by
  induction run with
  | nil => exact usable
  | @cons before middle after event rest step _ ih =>
    have kept := ih usable
    cases marked : before.connection.channel.inFlight with
    | false => exact marked
    | true =>
      have still : middle.connection.channel.inFlight = true := step.marked marked
      rw [Usable, still] at kept
      cases kept

/-- While the connection is usable, the statements that were to be freed and those that are left are
the ones that are freed and the ones still to be freed, in order. -/
theorem accounted (run : Run before events after) (usable : after.connection.Usable) :
    before.unsent ++ leftIn events = freedIn events ++ after.unsent := by
  induction run with
  | nil => exact List.append_nil _
  | @cons before middle after event rest step run ih =>
    have first := step.accounted (run.usable_before usable)
    calc
      before.unsent ++ leftIn (event :: rest) =
          before.unsent ++ event.left?.toList ++ leftIn rest := by
        rw [leftIn_cons, List.append_assoc]
      _ = event.freed?.toList ++ (middle.unsent ++ leftIn rest) := by
        rw [first, List.append_assoc]
      _ = freedIn (event :: rest) ++ after.unsent := by
        rw [ih usable, freedIn_cons, List.append_assoc]

/-- What is to be freed before the next command is freed or stays so. -/
theorem due_isPrefix (run : Run before events after) (usable : after.connection.Usable) :
    before.due <+: freedIn events ++ after.due := by
  induction run with
  | nil => exact List.prefix_rfl
  | @cons before middle after event rest step run ih =>
    have first := step.due_isPrefix (run.usable_before usable)
    have others : event.freed?.toList ++ middle.due <+:
        event.freed?.toList ++ (freedIn rest ++ after.due) :=
      (List.prefix_append_right_inj _).mpr (ih usable)
    rw [freedIn_cons, List.append_assoc]
    exact first.trans others

/-- While the connection is usable, the round trips of the events are made and no others. -/
theorem answered (run : Run before events after) (usable : after.connection.Usable) :
    Answered before.connection.channel (tripsIn events) after.connection.channel := by
  induction run with
  | nil => exact .nil _
  | @cons before middle after event rest step run ih =>
    rw [tripsIn_cons]
    exact (step.answered (run.usable_before usable)).append (ih usable)

/-- What a request does until its own round trip: of the statements that it took the first ones are
freed, and others are left meanwhile. -/
theorem freeing {connection : Connection} {wanted : Request} {taken : List UInt32}
    (run : Run ⟨connection, .freeing wanted taken⟩ events after)
    (own : ∀ event ∈ events, ¬ event.IsAnswer) (usable : after.connection.Usable) :
    ∃ rest channel,
      after = ⟨{ connection with channel, orphans := connection.orphans ++ leftIn events },
        .freeing wanted rest⟩ ∧
      taken = freedIn events ++ rest ∧
      (tripsIn events).map Trip.request = (freedIn events).map Request.free := by
  generalize start : (⟨connection, .freeing wanted taken⟩ : Shared) = before at run
  induction run generalizing connection taken with
  | nil =>
    subst start
    exact ⟨taken, connection.channel, by simp [leftIn], rfl, rfl⟩
  | cons step run ih =>
    subst start
    have later := fun event member => own event (List.mem_cons_of_mem _ member)
    cases step with
    | leave statement =>
      obtain ⟨rest, channel, rfl, freed, trips⟩ := ih later usable rfl
      exact ⟨rest, channel, by simp [leftIn, releaseLater, Event.left?], freed, trips⟩
    | free made =>
      obtain ⟨rest, channel, rfl, rfl, trips⟩ := ih later usable rfl
      exact ⟨rest, channel, rfl, rfl, congrArg (Request.free _ :: ·) trips⟩
    | answer made => exact absurd ⟨_, _, rfl⟩ (own _ List.mem_cons_self)
    | stop stopped => exact absurd (run.usable_before usable) (not_usable_of_error stopped)

end Run

/-- Whether a computation, however it ends, is made of requests: alone on a connection it runs by
the steps of a shared one. -/
def Serves {α : Type} (action : Action α) : Prop :=
  ∀ before, ∃ events, Run ⟨before, .idle⟩ events ⟨Action.last (action before), .idle⟩

section Serves

variable {α β : Type}

/-- Freeing what was taken and sending the request behind it runs by the steps. -/
theorem exists_run_freeAll (wanted : Request) (taken : List UInt32) (before : Connection) :
    ∃ events, Run ⟨before, .freeing wanted taken⟩ events
      ⟨Action.last ((freeAll taken >>= fun _ => exchange wanted) before), .idle⟩ := by
  induction taken generalizing before with
  | nil =>
    rw [freeAll, Action.bind_of_ok (Action.pure_apply () before)]
    cases made : roundTrip wanted before.channel with
    | ok packet channel =>
      rw [exchange_of_ok made, last_ofExcept]
      exact ⟨_, .single (.answer made)⟩
    | error stop channel =>
      rw [exchange, Action.bind_of_error (onChannel_of_error made)]
      exact ⟨_, .single (.stop made)⟩
  | cons statement rest ih =>
    rw [freeAll, bind_assoc]
    cases made : roundTrip (.free statement) before.channel with
    | ok packet channel =>
      rw [Action.bind_of_ok (onChannel_of_ok made)]
      obtain ⟨events, run⟩ := ih { before with channel }
      exact ⟨_, .cons (.free made) run⟩
    | error stop channel =>
      rw [Action.bind_of_error (onChannel_of_error made)]
      exact ⟨_, .single (.stop made)⟩

/-- A request runs by the steps. -/
theorem serves_request (wanted : Request) : Serves (request wanted) := by
  intro before
  obtain ⟨events, run⟩ := exists_run_freeAll wanted before.orphans { before with orphans := [] }
  have same : request wanted before =
      (freeAll before.orphans >>= fun _ => exchange wanted) { before with orphans := [] } :=
    Action.bind_congr (freeOrphans_eq before)
  rw [same]
  exact ⟨_, .cons (.enter wanted) (.cons .take run)⟩

/-- A computation that leaves the connection as it was takes no step. -/
theorem serves_of_last_eq {action : Action α}
    (same : ∀ before, Action.last (action before) = before) : Serves action := by
  intro before
  rw [same]
  exact ⟨[], .nil _⟩

/-- Looking at the connection takes no step. -/
theorem serves_get : Serves (get : Action Connection) := serves_of_last_eq fun _ => rfl

/-- A result without effects takes no step. -/
theorem serves_ofExcept (result : Except Error α) : Serves (ofExcept result) :=
  serves_of_last_eq (last_ofExcept result)

/-- A value takes no step. -/
theorem serves_pure (value : α) : Serves (pure value : Action α) := serves_of_last_eq fun _ => rfl

/-- What is made of requests in a sequence is made of requests. -/
theorem Serves.bind {first : Action α} {next : α → Action β} (head : Serves first)
    (tail : ∀ value, Serves (next value)) : Serves (first >>= next) := by
  intro before
  obtain ⟨events, run⟩ := head before
  apply Action.last_bind
    (motive := fun after => ∃ events, Run ⟨before, .idle⟩ events ⟨after, .idle⟩)
  · intro stop middle stopped
    rw [stopped] at run
    exact ⟨events, run⟩
  · intro value middle done
    rw [done] at run
    obtain ⟨others, later⟩ := tail value middle
    exact ⟨events ++ others, run.append later⟩

/-- Freeing a statement is a request. -/
theorem serves_freeStatement (statement : UInt32) : Serves (freeStatement statement) :=
  (serves_request _).bind fun _ => serves_pure ()

/-- Freeing a statement of which nothing can come is a request. -/
theorem serves_freeAndFail (statement : UInt32) (error : Error) :
    Serves (freeAndFail (α := α) statement error) := by
  intro before
  obtain ⟨events, run⟩ := serves_freeStatement statement before
  refine ⟨events, ?_⟩
  unfold freeAndFail
  cases freed : freeStatement statement before with
  | ok done after =>
    rw [freed] at run
    exact run
  | error stop after =>
    rw [freed] at run
    cases stop <;> exact run

/-- Settling an execution is made of requests. -/
theorem serves_settle (parameters : ParameterList) (payload : Bytes) :
    Serves (settle parameters payload) := by
  refine serves_get.bind fun connection => ?_
  dsimp only
  split
  · exact serves_ofExcept (.error _)
  · split
    · exact serves_freeAndFail _ _
    · exact (serves_freeStatement _).bind fun _ => serves_pure _
    · exact serves_pure _
    · exact serves_pure _

/-- An execution is made of requests. -/
theorem serves_execute (sql : String) (parameters : ParameterList) :
    Serves (execute sql parameters) :=
  (serves_ofExcept _).bind fun _ => serves_get.bind fun _ =>
    (serves_request _).bind fun _ => serves_settle parameters _

end Serves

/-- What a task may have a connection do, short of closing it. -/
inductive Job where
  /-- Commit the transaction. -/
  | commit
  /-- Roll the transaction back. -/
  | rollback
  /-- Cancel what another session is doing. -/
  | cancel (busy : Session)
  /-- Describe the parameters of a statement. -/
  | describe (sql : String)
  /-- Execute a statement. -/
  | execute (sql : String) (parameters : ParameterList)
  /-- Execute a statement that gives rows. -/
  | query (sql : String)
  /-- Fetch a batch. -/
  | fetch (wanted : FetchRequest)
  /-- Free a statement. -/
  | free (statement : UInt32)

namespace Job

/-- Do the job. -/
def perform : Job → Action Unit
  | .commit => Connection.commit
  | .rollback => Connection.rollback
  | .cancel busy => Connection.cancel busy
  | .describe sql => do
    let _ ← describeParameters sql
  | .execute sql parameters => do
    let _ ← Connection.execute sql parameters
  | .query sql => do
    let _ ← Connection.query sql
  | .fetch wanted => do
    let _ ← Connection.fetch wanted
  | .free statement => freeStatement statement

/-- Every job is made of requests. -/
theorem serves (job : Job) : Serves job.perform := by
  cases job with
  | commit => exact (serves_request _).bind fun _ => serves_pure ()
  | rollback => exact (serves_request _).bind fun _ => serves_pure ()
  | cancel busy => exact (serves_request _).bind fun _ => serves_pure ()
  | describe sql =>
    have describes : Serves (describeParameters sql) :=
      serves_get.bind fun _ => (serves_request _).bind fun _ => (serves_ofExcept _).bind fun _ =>
        (serves_freeStatement _).bind fun _ => serves_pure _
    exact describes.bind fun _ => serves_pure ()
  | execute sql parameters => exact (serves_execute sql parameters).bind fun _ => serves_pure ()
  | query sql =>
    have queries : Serves (Connection.query sql) := by
      refine serves_get.bind fun _ => (serves_execute sql _).bind fun execution => ?_
      cases execution with
      | update affected => exact serves_ofExcept (.error _)
      | query cursor => exact serves_pure cursor
      | call statement outputs =>
        exact (serves_freeStatement statement).bind fun _ => serves_ofExcept (.error _)
    exact queries.bind fun _ => serves_pure ()
  | fetch wanted =>
    have fetches : Serves (Connection.fetch wanted) :=
      (serves_request _).bind fun _ => serves_get.bind fun _ => serves_ofExcept _
    exact fetches.bind fun _ => serves_pure ()
  | free statement => exact serves_freeStatement statement

end Job

/-- A connection that several tasks share, from a moment at which no request holds its channel to
one at which it is still usable. Whatever they do short of closing it runs by these steps. The
statements that were left, before or meanwhile, are those that were freed in a round trip of their
own and those that are still to be freed, in order; when no request holds the channel, the latter
are in the list. Whatever was left when a request took the channel is freed by the time it or any
later one is answered. Nothing else is sent. And a request gives what the answer to itself says,
whatever packets answered those that freed statements. -/
theorem orphans_freed_once_in_order (start : Connection) {events : List Event} {finish : Shared}
    (run : Run ⟨start, .idle⟩ events finish) (usable : finish.connection.Usable) :
    (∀ job : Job, Serves job.perform) ∧
    start.orphans ++ leftIn events = freedIn events ++ finish.unsent ∧
    (finish.stage = .idle →
      start.orphans ++ leftIn events = freedIn events ++ finish.connection.orphans) ∧
    (∀ front wanted middle other packet back,
      events = front ++ .entered wanted :: (middle ++ .answered other packet :: back) →
        start.orphans ++ leftIn front <+: freedIn (front ++ .entered wanted :: middle)) ∧
    start.channel.Sent finish.connection.channel ((tripsIn events).map Trip.request) ∧
    ∀ front middle wanted packet back,
      events = front ++ .took :: (middle ++ .answered wanted packet :: back) →
      (∀ event ∈ middle, ¬ event.IsAnswer) →
        ∃ taking channel, Run ⟨start, .idle⟩ front ⟨taking, .entered wanted⟩ ∧
          freedIn middle = taking.orphans ∧
          request wanted taking =
            ofExcept (packet.check taking.version taking.codec) (taking.settled channel) := by
  have accounted : start.orphans ++ leftIn events = freedIn events ++ finish.unsent :=
    run.accounted usable
  refine ⟨Job.serves, accounted, ?_, ?_, (run.answered usable).sent, ?_⟩
  · intro idle
    rw [accounted, Shared.unsent, idle]
  · rintro front wanted middle other packet back rfl
    obtain ⟨before, early, run⟩ := run.split
    cases run with
    | cons entering run =>
      cases entering with
      | @enter connection =>
        obtain ⟨serving, service, run⟩ := run.split
        have kept : serving.connection.Usable := run.usable_before usable
        have due : connection.orphans <+: freedIn middle ++ serving.due :=
          service.due_isPrefix kept
        have earlier : start.orphans ++ leftIn front = freedIn front ++ connection.orphans :=
          early.accounted (service.usable_before kept)
        cases run with
        | cons answering run =>
          -- A request that is answered has nothing left to free.
          cases answering with
          | answer made =>
            rw [Shared.due, List.append_nil] at due
            have whole : freedIn (front ++ .entered wanted :: middle) =
                freedIn front ++ freedIn middle := List.filterMap_append
            rw [earlier, whole]
            exact (List.prefix_append_right_inj _).mpr due
  · rintro front middle wanted packet back rfl own
    obtain ⟨before, early, run⟩ := run.split
    cases run with
    | cons taking run =>
      cases taking with
      | @take connection held =>
        obtain ⟨serving, service, run⟩ := run.split
        have kept : serving.connection.Usable := run.usable_before usable
        have trips := service.answered kept
        obtain ⟨rest, channel, rfl, freed, requests⟩ := service.freeing own kept
        cases run with
        | cons answering run =>
          cases answering with
          | @answer _ _ _ after made =>
            rw [List.append_nil] at freed
            rw [← freed] at requests
            exact ⟨connection, after, early, freed.symm,
              request_of_answered requests (trips.append (.single made))⟩

/-- A connection to a server that answers the freeing of two statements by errors, of which the
first cannot be read, and all else by success. -/
def grudging : Connection :=
  facing
    [⟨⟨18, 13, 1, 0, 0, 0, 0, 1⟩, 0, [255, 255], rfl⟩, ⟨⟨17, 9, 0, 0, 0, 0, 0, 2⟩, 0, [0], rfl⟩,
      ⟨⟨32, 13, 1, 0, 0, 0, 0, 3⟩, 0, [0, 0, 0, 7, 0, 0, 0, 0, 0, 0, 0, 0, 0, 0, 0, 0], rfl⟩,
      ⟨⟨16, 10, 0, 0, 0, 0, 0, 4⟩, 0, [], rfl⟩]

/-- A statement is left before a request and another one while the first is being freed. -/
def grudgingEvents : List Event :=
  [.left 5, .entered .commit, .took, .left 9,
    .freed 5 ⟨⟨18, 13, 1, 0, 0, 0, 0, 1⟩, [255, 255]⟩,
    .answered .commit ⟨⟨17, 9, 0, 0, 0, 0, 0, 2⟩, [0]⟩,
    .entered .rollback, .took,
    .freed 9 ⟨⟨32, 13, 1, 0, 0, 0, 0, 3⟩, [0, 0, 0, 7, 0, 0, 0, 0, 0, 0, 0, 0, 0, 0, 0, 0]⟩,
    .answered .rollback ⟨⟨16, 10, 0, 0, 0, 0, 0, 4⟩, []⟩]

/-- The round trips of those events are answered, and leave the channel usable. -/
theorem exists_channels_grudging :
    ∃ first second third fourth,
      roundTrip (.free 5) grudging.channel = .ok ⟨⟨18, 13, 1, 0, 0, 0, 0, 1⟩, [255, 255]⟩ first ∧
      roundTrip .commit first = .ok ⟨⟨17, 9, 0, 0, 0, 0, 0, 2⟩, [0]⟩ second ∧
      roundTrip (.free 9) second = .ok ⟨⟨32, 13, 1, 0, 0, 0, 0, 3⟩,
        [0, 0, 0, 7, 0, 0, 0, 0, 0, 0, 0, 0, 0, 0, 0, 0]⟩ third ∧
      roundTrip .rollback third = .ok ⟨⟨16, 10, 0, 0, 0, 0, 0, 4⟩, []⟩ fourth ∧
      fourth.inFlight = false := by
  let first := Action.last (roundTrip (.free 5) grudging.channel)
  let second := Action.last (roundTrip .commit first)
  let third := Action.last (roundTrip (.free 9) second)
  have one : (Action.outcome (roundTrip (.free 5) grudging.channel)).toOption =
      some ⟨⟨18, 13, 1, 0, 0, 0, 0, 1⟩, [255, 255]⟩ := by
    decide +kernel
  have two : (Action.outcome (roundTrip .commit first)).toOption =
      some ⟨⟨17, 9, 0, 0, 0, 0, 0, 2⟩, [0]⟩ := by
    decide +kernel
  have three : (Action.outcome (roundTrip (.free 9) second)).toOption =
      some ⟨⟨32, 13, 1, 0, 0, 0, 0, 3⟩, [0, 0, 0, 7, 0, 0, 0, 0, 0, 0, 0, 0, 0, 0, 0, 0]⟩ := by
    decide +kernel
  have four : (Action.outcome (roundTrip .rollback third)).toOption =
      some ⟨⟨16, 10, 0, 0, 0, 0, 0, 4⟩, []⟩ := by
    decide +kernel
  have usable : (Action.last (roundTrip .rollback third)).inFlight = false := by decide +kernel
  exact ⟨_, _, _, _, Action.eq_ok_of_outcome one, Action.eq_ok_of_outcome two,
    Action.eq_ok_of_outcome three, Action.eq_ok_of_outcome four, usable⟩

/-- Those events come about, and leave the connection usable. -/
theorem exists_run_grudging :
    ∃ finish, Run ⟨grudging, .idle⟩ grudgingEvents finish ∧ finish.connection.Usable ∧
      finish.stage = .idle := by
  obtain ⟨first, second, third, fourth, one, two, three, four, usable⟩ := exists_channels_grudging
  have left : Run ⟨grudging, .idle⟩ [.left 5, .entered .commit, .took, .left 9]
      ⟨{ grudging with orphans := [9] }, .freeing .commit [5]⟩ :=
    .cons (.leave 5) (.cons (.enter .commit) (.cons .take (.single (.leave 9))))
  have committed : Run ⟨{ grudging with orphans := [9] }, .freeing .commit [5]⟩ _
      ⟨{ grudging with channel := second, orphans := [9] }, .idle⟩ :=
    .cons (.free one) (.single (.answer two))
  have taken : Run ⟨{ grudging with channel := second, orphans := [9] }, .idle⟩
      [.entered .rollback, .took]
      ⟨{ grudging with channel := second, orphans := [] }, .freeing .rollback [9]⟩ :=
    .cons (.enter .rollback) (.single .take)
  have rolledBack : Run ⟨{ grudging with channel := second, orphans := [] },
      .freeing .rollback [9]⟩ _ ⟨{ grudging with channel := fourth, orphans := [] }, .idle⟩ :=
    .cons (.free three) (.single (.answer four))
  exact ⟨_, left.append (committed.append (taken.append rolledBack)), usable, rfl⟩

/-- Both statements are freed, each in front of the request that found it, and the errors about them
do not matter to the commit. -/
theorem orphans_freed_once_in_order_grudging :
    ∃ finish, Run ⟨grudging, .idle⟩ grudgingEvents finish ∧ finish.connection.Usable ∧
      freedIn grudgingEvents = [5, 9] ∧ finish.connection.orphans = [] ∧
      grudging.channel.Sent finish.connection.channel [.free 5, .commit, .free 9, .rollback] ∧
      ∃ taking channel, taking.orphans = [5] ∧
        request .commit taking = .ok [0] (taking.settled channel) := by
  obtain ⟨finish, run, usable, idle⟩ := exists_run_grudging
  obtain ⟨_, _, kept, _, sent, given⟩ := orphans_freed_once_in_order grudging run usable
  let meanwhile : List Event := [.left 9, .freed 5 ⟨⟨18, 13, 1, 0, 0, 0, 0, 1⟩, [255, 255]⟩]
  have own : ∀ event ∈ meanwhile, ¬ event.IsAnswer := by
    rintro event member ⟨wanted, packet, rfl⟩
    simp [meanwhile] at member
  obtain ⟨taking, channel, _, freed, answer⟩ :=
    given [.left 5, .entered .commit] meanwhile .commit _ _ rfl own
  exact ⟨finish, run, usable, rfl, List.append_cancel_left (kept idle).symm, sent, taking, channel,
    freed.symm, answer⟩

end SqlWire.Connection
