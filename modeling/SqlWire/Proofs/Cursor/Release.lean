import SqlWire.Proofs.Cursor.FetchAll

/-!
# Freeing the statement of a cursor

A cursor that owns its statement sees to it that the statement is freed: at once when it is closed,
later when it is given up before. Whatever is asked of such a cursor, and however it ends, it does
so once, and behind its closing it does nothing with its source any more
(`statement_released_once`).
-/
namespace SqlWire

/-- That a statement is freed, or left to be freed. -/
inductive Release where
  /-- At once. -/
  | now (statement : UInt32)
  /-- Later. -/
  | later (statement : UInt32)
  deriving DecidableEq

namespace Contact

/-- What a contact does about the freeing of a statement, whatever comes of it. -/
def release? : Contact → Option Release
  | .fetched _ _ => none
  | .released statement _ => some (.now statement)
  | .left statement => some (.later statement)

/-- What was done about the freeing of statements, in order. -/
def releases (contacts : List Contact) : List Release := contacts.filterMap release?

@[simp] theorem releases_nil : releases [] = [] := rfl

@[simp] theorem releases_append (first second : List Contact) :
    releases (first ++ second) = releases first ++ releases second := List.filterMap_append

@[simp] theorem releases_cons_fetched (request : FetchRequest)
    (outcome : Except Interrupt RowBatch) (rest : List Contact) :
    releases (.fetched request outcome :: rest) = releases rest := rfl

end Contact

namespace Cursor

variable {σ : Type} {source : Source σ} {store : σ} {cursor final : Cursor}
  {contacts : List Contact}

/-- Whether a cursor buffers nothing if it is closed. -/
def Tidy (cursor : Cursor) : Prop := cursor.closed = true → cursor.buffer = []

/-- How a cursor sees to the freeing of its statement while it deals with its source: it frees the
statement when it is closed meanwhile, and a closed cursor leaves its source alone. -/
structure Discharge (cursor : Cursor) (contacts : List Contact) (final : Cursor) : Prop where
  /-- The statement stays the same. -/
  statement_eq : final.statement = cursor.statement
  /-- So does its owner. -/
  owns_eq : final.ownsStatement = cursor.ownsStatement
  /-- The statement is freed by a cursor that owns it and is closed meanwhile. -/
  releases_eq : Contact.releases contacts =
    if cursor.closed = false ∧ final.closed = true ∧ cursor.ownsStatement = true then
      [.now cursor.statement] else []
  /-- A closed cursor does nothing and stays closed. -/
  of_closed : cursor.closed = true → contacts = [] ∧ final.closed = true
  /-- A closed cursor has nothing to hand out. -/
  tidy : cursor.Tidy → final.Tidy

namespace Discharge

/-- A cursor that at most fetches, and is as closed afterwards as before. -/
theorem of_fetches (statement : final.statement = cursor.statement)
    (owns : final.ownsStatement = cursor.ownsStatement) (closed : final.closed = cursor.closed)
    (fetches : Contact.releases contacts = [])
    (idle : cursor.closed = true → contacts = []) (tidy : cursor.Tidy → final.Tidy) :
    Discharge cursor contacts final where
  statement_eq := statement
  owns_eq := owns
  releases_eq := by
    rw [fetches, if_neg]
    rintro ⟨opened, shut, _⟩
    rw [closed, opened] at shut
    cases shut
  of_closed shut := ⟨idle shut, closed.trans shut⟩
  tidy := tidy

/-- A cursor that does nothing. -/
theorem refl (cursor : Cursor) : Discharge cursor [] cursor :=
  .of_fetches rfl rfl rfl rfl (fun _ => rfl) fun tidy => tidy

/-- Dealings one after the other. -/
theorem append {middle : Cursor} {more : List Contact} (first : Discharge cursor contacts middle)
    (second : Discharge middle more final) : Discharge cursor (contacts ++ more) final where
  statement_eq := second.statement_eq.trans first.statement_eq
  owns_eq := second.owns_eq.trans first.owns_eq
  releases_eq := by
    rw [Contact.releases_append, first.releases_eq, second.releases_eq, first.statement_eq,
      first.owns_eq]
    cases before : cursor.closed with
    | true => simp [(first.of_closed before).2]
    | false =>
      cases between : middle.closed with
      | true => simp [(second.of_closed between).2]
      | false => simp
  of_closed shut := by
    obtain ⟨rfl, between⟩ := first.of_closed shut
    exact second.of_closed between
  tidy := second.tidy ∘ first.tidy

end Discharge

namespace Course

variable {outcome : Except Interrupt (Option Row)}

/-- A call for a row neither opens nor closes a cursor. -/
theorem closed_eq (course : Course cursor contacts outcome final) :
    final.closed = cursor.closed := by
  rw [← closed_absorbAll cursor (Contact.batches contacts)]
  obtain ⟨_, _, _, _, rfl⟩ | ⟨_, _, rfl⟩ | ⟨_, _, _, _, rfl⟩ := course.ends <;> rfl

/-- A call for a row frees nothing. -/
theorem releases_eq (course : Course cursor contacts outcome final) :
    Contact.releases contacts = [] := by
  induction course with
  | handed => rfl
  | drained => rfl
  | refused => rfl
  | refilled batch wants _ ih => exact ih

/-- A call for a row buffers nothing in a closed cursor. -/
theorem tidy (course : Course cursor contacts outcome final) (tidy : cursor.Tidy) : final.Tidy := by
  intro shut
  rw [course.closed_eq] at shut
  have kept := course.given_append_buffer
  rw [course.eq_nil_of_closed shut, tidy shut] at kept
  exact (List.append_eq_nil_iff.mp kept).2

/-- A call for a row leaves the freeing of the statement to come. -/
theorem discharge (course : Course cursor contacts outcome final) :
    Discharge cursor contacts final :=
  .of_fetches (congrArg FetchRequest.statement course.fixed.1) course.fixed.2 course.closed_eq
    course.releases_eq course.eq_nil_of_closed course.tidy

end Course

/-- The taking of all rows neither opens nor closes a cursor. -/
theorem Sweep.closed_eq {rows : List Row} {stop : Option Interrupt}
    (sweep : Sweep cursor contacts rows stop final) : final.closed = cursor.closed := by
  induction sweep with
  | ended course => exact course.closed_eq
  | stopped course => exact course.closed_eq
  | handed course _ ih => exact ih.trans course.closed_eq

namespace Closing

variable {outcome : Except Interrupt Unit}

/-- A cursor that is closed is closed, however that ends. -/
theorem closed_eq (closing : Closing cursor contacts outcome final) : final.closed = true := by
  cases closing with
  | already closed => exact closed
  | shared => rfl
  | owned => rfl

/-- Closing frees the statement of a cursor that owns it and was open. -/
theorem discharge (closing : Closing cursor contacts outcome final) :
    Discharge cursor contacts final := by
  cases closing with
  | already closed => exact .refl cursor
  | shared opened shared =>
    refine ⟨rfl, rfl, ?_, fun closed => absurd closed (by simp [opened]), fun _ _ => rfl⟩
    simp [shared]
  | owned outcome opened owns =>
    refine ⟨rfl, rfl, ?_, fun closed => absurd closed (by simp [opened]), fun _ _ => rfl⟩
    simp [Contact.releases, Contact.release?, refresh, opened, owns]

end Closing

/-- Whatever a cursor does, it sees to the freeing of its statement. -/
theorem composes_discharge : Composes fun cursor contacts _ final =>
    Discharge cursor contacts final where
  refl := .refl
  append first second := first.append second
  course := Course.discharge
  closing := Closing.discharge
  resized _ _ := .of_fetches rfl rfl rfl rfl (fun _ => rfl) fun tidy => tidy

/-- A call for all rows closes the cursor when it gets to their end. -/
theorem closed_fetchAll :
    (Action.last (fetchAll source (store, cursor))).2.closed = true ↔
      cursor.closed = true ∨ (drain source [] store cursor).2.1 = none := by
  obtain ⟨_, rows, stop, store', middle, drained, _, sweep⟩ :=
    sweep_of_drain source [] [] store cursor
  rw [drained]
  cases stop with
  | some reason =>
    rw [fetchAll_of_stopped drained, Action.last_error, sweep.closed_eq]
    simp
  | none =>
    obtain ⟨_, closing, _⟩ := closing_of_close source [] store' middle
    rw [fetchAll_of_ended drained, Action.last_bind_pure]
    simp [closing.closed_eq]

/-- Whether the closing of a cursor runs when it meets a demand. -/
def Demand.RunsClose (source : Source σ) (held : σ × Cursor) : Demand → Prop
  | .close => True
  | .fetchAll => (drain source [] held.1 held.2).2.1 = none
  | .next | .setFetchSize _ => False

/-- A cursor is closed after it met a demand when it was before or its closing ran. -/
theorem Demand.closed_meet (demand : Demand) (source : Source σ) (store : σ) (cursor : Cursor) :
    (Action.last (demand.meet source (store, cursor))).2.closed = true ↔
      cursor.closed = true ∨ demand.RunsClose source (store, cursor) := by
  cases demand with
  | next =>
    obtain ⟨_, course, _⟩ := course_of_nextFrom source [] store cursor
    have closed : (Action.last (Cursor.next source (store, cursor))).2.closed = cursor.closed :=
      course.closed_eq
    rw [meet, Action.last_bind_pure, closed]
    exact (or_iff_left not_false).symm
  | fetchAll => exact closed_fetchAll
  | close =>
    obtain ⟨_, closing, _⟩ := closing_of_close source [] store cursor
    rw [meet, Action.last_bind_pure]
    exact iff_of_true closing.closed_eq (.inr trivial)
  | setFetchSize size => exact (or_iff_left not_false).symm

namespace History

/-- Whether the closing of a cursor ran while it met demands. -/
def Closes (source : Source σ) (history : History σ) (demands : List Demand) : Prop :=
  ∃ front demand back, demands = front ++ demand :: back ∧
    demand.RunsClose source
      ((history.serveAll source front).store, (history.serveAll source front).cursor)

variable {history : History σ}

/-- One demand among others. -/
theorem serveAll_split (source : Source σ) (history : History σ) (front : List Demand)
    (demand : Demand) (back : List Demand) :
    history.serveAll source (front ++ demand :: back) =
      ((history.serveAll source front).serve source demand).serveAll source back :=
  List.foldl_append

/-- After a demand the cursor is closed when it was before or its closing ran. -/
theorem closed_serve (source : Source σ) (history : History σ) (demand : Demand) :
    (history.serve source demand).cursor.closed = true ↔ history.cursor.closed = true ∨
      demand.RunsClose source (history.store, history.cursor) :=
  demand.closed_meet source history.store history.cursor

/-- Demands add what they did with the source to the log, and the cursor sees to the freeing of its
statement meanwhile. -/
theorem exists_discharge_serveAll (source : Source σ) (history : History σ)
    (demands : List Demand) :
    let later := history.serveAll source demands
    ∃ contacts, later.contacts = history.contacts ++ contacts ∧
      Discharge history.cursor contacts later.cursor :=
  composes_discharge.serveAll source history demands

/-- A closed cursor stays closed and leaves its source alone, whatever is asked of it. -/
theorem serveAll_of_closed (source : Source σ) (closed : history.cursor.closed = true)
    (demands : List Demand) :
    (history.serveAll source demands).contacts = history.contacts ∧
      (history.serveAll source demands).cursor.closed = true := by
  obtain ⟨contacts, logged, discharge⟩ := history.exists_discharge_serveAll source demands
  obtain ⟨rfl, shut⟩ := discharge.of_closed closed
  exact ⟨logged.trans (List.append_nil _), shut⟩

/-- A demand in which the closing runs leaves the cursor closed. -/
theorem closed_of_runsClose {demand : Demand}
    (runs : demand.RunsClose source (history.store, history.cursor)) :
    (history.serve source demand).cursor.closed = true :=
  (history.closed_serve source demand).mpr (.inr runs)

/-- After demands the cursor is closed when it was before or its closing ran. -/
theorem closed_serveAll (source : Source σ) (history : History σ) (demands : List Demand) :
    (history.serveAll source demands).cursor.closed = true ↔
      history.cursor.closed = true ∨ history.Closes source demands := by
  constructor
  · intro closed
    induction demands generalizing history with
    | nil => exact .inl closed
    | cons demand rest ih =>
      obtain before | ⟨front, closer, back, rfl, runs⟩ := ih (history.serve source demand) closed
      · obtain already | runs := (history.closed_serve source demand).mp before
        · exact .inl already
        · exact .inr ⟨[], demand, rest, rfl, runs⟩
      · exact .inr ⟨demand :: front, closer, back, rfl, runs⟩
  · rintro (closed | ⟨front, demand, back, rfl, runs⟩)
    · exact (serveAll_of_closed source closed demands).2
    · rw [serveAll_split]
      exact (serveAll_of_closed source (closed_of_runsClose runs) back).2

end History

/-- How a cursor ends. -/
inductive Ending where
  /-- It is given up. -/
  | dropped
  /-- It becomes a stream, which is given up after so many items were asked of it. -/
  | streamed (asked : Nat)

/-- A stream after so many items were asked of it. -/
def polled (source : Source σ) : Nat → σ × Option Cursor → σ × Option Cursor
  | 0, held => held
  | asked + 1, held => polled source asked (poll source held.1 held.2).2

/-- A stream that has ended stays so. -/
theorem polled_none (source : Source σ) (asked : Nat) (store : σ) :
    polled source asked (store, none) = (store, none) := by
  induction asked with
  | zero => rfl
  | succ asked ih => exact ih

/-- The source when a cursor has ended. -/
def Ending.finish (source : Source σ) (held : σ × Cursor) : Ending → σ
  | .dropped => giveUp source held.1 held.2
  | .streamed asked =>
    let (store, left) := polled source asked (held.1, some held.2)
    giveUpStream source store left

/-- How a cursor that ends sees to the freeing of its statement: it leaves an owned one that it did
not free to be freed later, and a closed cursor leaves its source alone. -/
structure Parting (cursor : Cursor) (contacts : List Contact) : Prop where
  /-- An owned statement that was not freed is freed later. -/
  releases_eq : Contact.releases contacts =
    if cursor.closed = false ∧ cursor.ownsStatement = true then [.later cursor.statement] else []
  /-- A closed cursor does nothing. -/
  of_closed : cursor.closed = true → contacts = []

/-- A cursor that is open as long as it only fetches leaves the freeing to its end. -/
theorem Discharge.parting {more : List Contact} (discharge : Discharge cursor contacts final)
    (same : final.closed = cursor.closed) (parting : Parting final more) :
    Parting cursor (contacts ++ more) where
  releases_eq := by
    rw [Contact.releases_append, discharge.releases_eq, parting.releases_eq, same,
      discharge.owns_eq, discharge.statement_eq]
    cases cursor.closed <;> simp
  of_closed shut := by
    obtain ⟨rfl, closed⟩ := discharge.of_closed shut
    exact parting.of_closed closed

/-- The log tells what the giving up of a cursor does with the source. -/
theorem exists_parting_giveUp (source : Source σ) (log : List Contact) (store : σ)
    (cursor : Cursor) :
    ∃ contacts,
      giveUp source.observed (log, store) cursor = (log ++ contacts, giveUp source store cursor) ∧
        Parting cursor contacts := by
  cases shut : cursor.closed with
  | true =>
    refine ⟨[], ?_, ?_, fun _ => rfl⟩
    · simp [giveUp, shut]
    · simp [shut]
  | false =>
    cases owns : cursor.ownsStatement with
    | true =>
      refine ⟨[.left cursor.statement], ?_, ?_, fun closed => ?_⟩
      · simp [giveUp, shut, owns, Source.observed]
      · simp [Contact.releases, Contact.release?, shut, owns]
      · exact absurd closed (by simp [shut])
    | false =>
      refine ⟨[], ?_, ?_, fun _ => rfl⟩
      · simp [giveUp, owns]
      · simp [owns]

/-- The log tells what a cursor does with the source that only fetches before it is given up. -/
theorem exists_parting_fetched (discharge : Discharge cursor contacts final)
    (same : final.closed = cursor.closed) (source : Source σ) (log : List Contact) (store : σ) :
    ∃ all,
      giveUp source.observed (log ++ contacts, store) final =
          (log ++ all, giveUp source store final) ∧
        Parting cursor all := by
  obtain ⟨more, left, parting⟩ := exists_parting_giveUp source (log ++ contacts) store final
  exact ⟨contacts ++ more, by rw [left, List.append_assoc], discharge.parting same parting⟩

/-- The log tells what a stream does with the source until it is given up. -/
theorem exists_parting_streamed (source : Source σ) (asked : Nat) (log : List Contact) (store : σ)
    (cursor : Cursor) :
    ∃ contacts,
      (Ending.streamed asked).finish source.observed ((log, store), cursor) =
          (log ++ contacts, (Ending.streamed asked).finish source (store, cursor)) ∧
        Parting cursor contacts := by
  induction asked generalizing log store cursor with
  | zero => exact exists_parting_giveUp source log store cursor
  | succ asked ih =>
    obtain ⟨taken, course, observed⟩ := course_of_nextFrom source log store cursor
    simp only [Ending.finish, polled, poll, observed]
    cases ended : nextFrom source store cursor with
    | ok row held =>
      rw [ended] at course
      obtain ⟨store', middle⟩ := held
      cases row with
      | some row =>
        obtain ⟨more, finished, parting⟩ := ih (log ++ taken) store' middle
        refine ⟨taken ++ more, ?_, course.discharge.parting course.closed_eq parting⟩
        rw [← List.append_assoc]
        exact finished
      | none =>
        obtain ⟨all, left, parting⟩ :=
          exists_parting_fetched course.discharge course.closed_eq source log store'
        refine ⟨all, ?_, parting⟩
        simpa only [Source.withLog, polled_none, giveUpStream, Action.last_ok] using left
    | error stop held =>
      rw [ended] at course
      obtain ⟨store', middle⟩ := held
      obtain ⟨all, left, parting⟩ :=
        exists_parting_fetched course.discharge course.closed_eq source log store'
      refine ⟨all, ?_, parting⟩
      simpa only [Source.withLog, polled_none, giveUpStream, Action.last_error] using left

/-- The log tells what a cursor that ends does with its source. -/
theorem Ending.exists_parting (ending : Ending) (source : Source σ) (log : List Contact)
    (store : σ) (cursor : Cursor) :
    ∃ contacts,
      ending.finish source.observed ((log, store), cursor) =
          (log ++ contacts, ending.finish source (store, cursor)) ∧
        Parting cursor contacts := by
  cases ending with
  | dropped => exact exists_parting_giveUp source log store cursor
  | streamed asked => exact exists_parting_streamed source asked log store cursor

/-- Whatever is asked of a cursor over the rows of a query, and however it ends, it sees once to the
freeing of its statement: at once if its closing ran, and else when it ends. A cursor that came as a
value never does. After the closing neither does anything with its source, and neither finds
another row. The log that tells so changes nothing. -/
theorem statement_released_once {σ : Type} (source : Source σ) (opening : Opening) (start : σ)
    (demands : List Demand) (ending : Ending) :
    let fresh := History.ofOpening opening start
    let held := fresh.serveAll source demands
    let ended := ending.finish source.observed ((held.contacts, held.store), held.cursor)
    let log := ended.1
    ended.2 = ending.finish source (held.store, held.cursor) ∧
    (match opening with
      | .ofBatch statement .. =>
        (fresh.Closes source demands → Contact.releases log = [.now statement]) ∧
        (¬ fresh.Closes source demands →
          Contact.releases held.contacts = [] ∧ Contact.releases log = [.later statement])
      | .unfetched .. => Contact.releases log = []) ∧
    ∀ front demand back, demands = front ++ demand :: back →
      let before := fresh.serveAll source front
      demand.RunsClose source (before.store, before.cursor) →
        log = (before.serve source demand).contacts ∧
        (∃ after, next source (held.store, held.cursor) = .ok none after) ∧
        (poll source held.store (some held.cursor)).1 = none := by
  intro fresh held ended log
  obtain ⟨contacts, logged, discharge⟩ := fresh.exists_discharge_serveAll source demands
  obtain ⟨more, finished, parting⟩ :=
    ending.exists_parting source held.contacts held.store held.cursor
  have log_eq : log = held.contacts ++ more := congrArg Prod.fst finished
  have opened : fresh.cursor.closed = false := by
    cases opening <;> rfl
  have closes : held.cursor.closed = true ↔ fresh.Closes source demands := by
    rw [History.closed_serveAll, opened, or_iff_right Bool.false_ne_true]
  have fetched : Contact.releases held.contacts = Contact.releases contacts :=
    congrArg Contact.releases (logged.trans (List.nil_append contacts))
  have released : Contact.releases log = Contact.releases contacts ++ Contact.releases more := by
    rw [log_eq, Contact.releases_append, fetched]
  rw [fetched, released, discharge.releases_eq, parting.releases_eq, discharge.owns_eq,
    discharge.statement_eq, opened, ← closes]
  refine ⟨congrArg Prod.snd finished, ?_, ?_⟩
  · cases opening with
    | ofBatch statement =>
      have owns : fresh.cursor.ownsStatement = true := rfl
      have same : fresh.cursor.statement = statement := rfl
      cases held.cursor.closed <;> simp [owns, same]
    | unfetched statement =>
      have shared : fresh.cursor.ownsStatement = false := rfl
      simp [shared]
  · intro front demand back split before runs
    have rest : held = (before.serve source demand).serveAll source back := by
      rw [← History.serveAll_split, ← split]
    obtain ⟨later, shut⟩ :=
      History.serveAll_of_closed source (History.closed_of_runsClose runs) back
    rw [← rest] at later shut
    have tidy : held.cursor.Tidy := discharge.tidy fun shut => absurd shut (by simp [opened])
    have drained : nextFrom source held.store held.cursor = .ok none _ :=
      nextFrom_of_drained ⟨tidy shut, .inr shut⟩
    refine ⟨?_, ⟨_, drained⟩, ?_⟩
    · rw [log_eq, parting.of_closed shut, later, List.append_nil]
    · simp only [poll, drained]

end Cursor
end SqlWire
