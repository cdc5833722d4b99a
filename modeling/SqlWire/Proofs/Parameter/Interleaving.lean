import Mathlib.Data.List.Sort
import SqlWire.Connection
import SqlWire.Proofs.Parameter.Retyped
import SqlWire.Proofs.Response.Asked

/-!
# Parameters that are changed in turns

A change of one parameter reads and writes this parameter and no other; beside it, only the order of
the declared outputs depends on what is done to the others. So what becomes of a parameter, and what
every change of it ends with, can be found out by leaving out the changes of all others
(`Alike.edited_filter`). If the changes of each parameter are the same in the same order, it does not
matter how those of different parameters take turns: the request and the reading of its answer are the
same (`turns_lead_to_same_execution`).
-/
namespace SqlWire

/-- A change of one parameter. -/
inductive SlotChange where
  /-- Bind an argument. -/
  | bindValue (type : WireType) (argument : Argument)
  /-- Bind null. -/
  | bindNull (type : WireType)
  /-- Declare an output. -/
  | bindOutput (type : SqlType)
  /-- Give the parameter another type. -/
  | retype (type : WireType)
  deriving DecidableEq

namespace SlotChange

/-- What a change makes of the parameter. -/
def apply (codec : Codec) (slot : Slot) : SlotChange → Except Error Slot
  | .bindValue type argument => do
    let encoded ← argument.encode codec type
    .ok (slot.bind type argument encoded)
  | .bindNull type => do
    let encoded ← Argument.null.encode codec type
    .ok (slot.bind type .null encoded)
  | .bindOutput type => .ok (slot.declare type)
  | .retype type => do
    let encoded ← slot.argument.encode codec type
    .ok { slot with type, encoded }

/-- What a change of the parameter with an ordinal makes of the ordinals that are noted as outputs. -/
def note (ordinal : Nat) (declared : List Nat) : SlotChange → List Nat
  | .bindOutput _ => if ordinal ∈ declared then declared else declared ++ [ordinal]
  | .bindValue _ _ | .bindNull _ | .retype _ => declared

end SlotChange

/-- A change of the parameter with an ordinal. -/
structure SlotEdit where
  /-- The ordinal. -/
  ordinal : Nat
  /-- The change. -/
  change : SlotChange
  deriving DecidableEq

/-- The edit of the list that makes the change. -/
def SlotEdit.edit (step : SlotEdit) : Edit :=
  match step.change with
  | .bindValue type argument => .bindValue step.ordinal type argument
  | .bindNull type => .bindNull step.ordinal type
  | .bindOutput type => .bindOutput step.ordinal type
  | .retype type => .retype step.ordinal type

namespace ParameterList

variable {list other : ParameterList} {step : SlotEdit}

/-- The list with a change of one parameter made. -/
def made (list : ParameterList) (step : SlotEdit) (next : Slot) : ParameterList :=
  { list.setSlot step.ordinal next with
    declared := step.change.note step.ordinal list.declared }

/-- A change of one parameter: the parameter is looked up, changed, and put back. -/
theorem change_edit_eq (step : SlotEdit) (list : ParameterList) :
    step.edit.change list =
      attempt (fun list => do
        let found ← list.slot step.ordinal
        let next ← step.change.apply list.codec found
        .ok (list.made step next)) list := by
  cases step with
  | mk ordinal change =>
    cases change with
    | bindValue type argument =>
      simp only [SlotEdit.edit, Edit.change, bindValue, SlotChange.apply, bind_assoc]
      rfl
    | bindNull type =>
      simp only [SlotEdit.edit, Edit.change, bindNull, bindValue, SlotChange.apply, bind_assoc]
      rfl
    | bindOutput type => rfl
    | retype type =>
      simp only [SlotEdit.edit, Edit.change, retype, SlotChange.apply, bind_assoc]
      rfl

/-- A change of a parameter that is not there fails and changes nothing. -/
theorem change_edit_of_missing {error : Error}
    (missing : list.slot step.ordinal = .error error) :
    step.edit.change list = .error error list := by
  simp [change_edit_eq, attempt, bind, Except.bind, missing]

/-- A change that fails on its parameter changes nothing. -/
theorem change_edit_of_refused {slot : Slot} {error : Error}
    (found : list.slot step.ordinal = .ok slot)
    (refused : step.change.apply list.codec slot = .error error) :
    step.edit.change list = .error error list := by
  simp [change_edit_eq, attempt, bind, Except.bind, found, refused]

/-- A change that succeeds on its parameter puts this back. -/
theorem change_edit_of_applied {slot next : Slot}
    (found : list.slot step.ordinal = .ok slot)
    (applied : step.change.apply list.codec slot = .ok next) :
    step.edit.change list = .ok () (list.made step next) := by
  simp [change_edit_eq, attempt, bind, Except.bind, found, applied]

/-- Replacing a parameter leaves those with other ordinals alone. -/
theorem slot_setSlot_of_ne {ordinal place : Nat} (counted : ordinal ≠ 0) (apart : ordinal ≠ place)
    (next : Slot) : (list.setSlot ordinal next).slot place = list.slot place := by
  have size : (list.setSlot ordinal next).size = list.size := List.length_set
  unfold ParameterList.slot
  by_cases zero : place = 0
  · simp [zero, ordinalError, size]
  · have elsewhere : ordinal - 1 ≠ place - 1 := by omega
    have kept : (list.setSlot ordinal next).slots[place - 1]? = list.slots[place - 1]? :=
      List.getElem?_set_ne elsewhere
    simp [zero, kept, ordinalError, size]

/-- Whether the parameters with an ordinal are alike in two lists. -/
structure Alike (ordinal : Nat) (list other : ParameterList) : Prop where
  /-- The bytes of arguments are made alike. -/
  codec_eq : list.codec = other.codec
  /-- The parameters are the same, or missing for the same reason. -/
  slot_eq : list.slot ordinal = other.slot ordinal

/-- A change of a parameter ends alike and leaves it alike in lists in which it is alike. -/
theorem Alike.change (alike : Alike step.ordinal list other) :
    Action.outcome (step.edit.change list) = Action.outcome (step.edit.change other) ∧
      Alike step.ordinal (Action.last (step.edit.change list))
        (Action.last (step.edit.change other)) := by
  cases found : list.slot step.ordinal with
  | error error =>
    have found' : other.slot step.ordinal = .error error := alike.slot_eq ▸ found
    rw [change_edit_of_missing found, change_edit_of_missing found']
    exact ⟨rfl, alike⟩
  | ok slot =>
    have found' : other.slot step.ordinal = .ok slot := alike.slot_eq ▸ found
    cases applied : step.change.apply list.codec slot with
    | error error =>
      have applied' : step.change.apply other.codec slot = .error error :=
        alike.codec_eq ▸ applied
      rw [change_edit_of_refused found applied, change_edit_of_refused found' applied']
      exact ⟨rfl, alike⟩
    | ok next =>
      have applied' : step.change.apply other.codec slot = .ok next := alike.codec_eq ▸ applied
      rw [change_edit_of_applied found applied, change_edit_of_applied found' applied']
      have put : (list.setSlot step.ordinal next).slot step.ordinal = .ok next :=
        slot_setSlot found next
      have put' : (other.setSlot step.ordinal next).slot step.ordinal = .ok next :=
        slot_setSlot found' next
      exact ⟨rfl, alike.codec_eq, put.trans put'.symm⟩

/-- A change of one parameter leaves the others alone. -/
theorem alike_change_of_ne {ordinal : Nat} (apart : step.ordinal ≠ ordinal) :
    Alike ordinal (Action.last (step.edit.change list)) list := by
  cases found : list.slot step.ordinal with
  | error error =>
    rw [change_edit_of_missing found]
    exact ⟨rfl, rfl⟩
  | ok slot =>
    cases applied : step.change.apply list.codec slot with
    | error error =>
      rw [change_edit_of_refused found applied]
      exact ⟨rfl, rfl⟩
    | ok next =>
      have counted : step.ordinal ≠ 0 := (slot_eq_ok.mp found).1
      rw [change_edit_of_applied found applied]
      exact ⟨rfl, slot_setSlot_of_ne counted apart next⟩

/-- Parameters that are alike in two lists, and these in two others. -/
theorem Alike.trans {ordinal : Nat} {third : ParameterList} (near : Alike ordinal list other)
    (far : Alike ordinal other third) : Alike ordinal list third :=
  ⟨near.codec_eq.trans far.codec_eq, near.slot_eq.trans far.slot_eq⟩

/-- Parameters that are alike in two lists, the other way round. -/
theorem Alike.symm {ordinal : Nat} (alike : Alike ordinal list other) : Alike ordinal other list :=
  ⟨alike.codec_eq.symm, alike.slot_eq.symm⟩

/-- The list after changes, whatever comes of each. -/
def changed (list : ParameterList) (steps : List SlotEdit) : ParameterList :=
  list.edited (steps.map SlotEdit.edit)

/-- Changes one after the other, with what each of them ends with. -/
def answers (list : ParameterList) : List SlotEdit → List (SlotEdit × Except Error Unit)
  | [] => []
  | step :: steps =>
    (step, Action.outcome (step.edit.change list)) ::
      answers (Action.last (step.edit.change list)) steps

/-- The changes of the parameter with an ordinal, in order. -/
def ownSteps (ordinal : Nat) (steps : List SlotEdit) : List SlotEdit :=
  steps.filter (·.ordinal = ordinal)

/-- What the changes of the parameter with an ordinal end with, in order. -/
def ownAnswers (ordinal : Nat) (answers : List (SlotEdit × Except Error Unit)) :
    List (SlotEdit × Except Error Unit) :=
  answers.filter (·.1.ordinal = ordinal)

/-- What becomes of a parameter, and what the changes of it end with, does not depend on the changes
of the others. -/
theorem Alike.changed_ownSteps {ordinal : Nat} (alike : Alike ordinal list other)
    (steps : List SlotEdit) :
    Alike ordinal (list.changed steps) (other.changed (ownSteps ordinal steps)) ∧
      ownAnswers ordinal (list.answers steps) = other.answers (ownSteps ordinal steps) := by
  induction steps generalizing list other with
  | nil => exact ⟨alike, rfl⟩
  | cons step steps ih =>
    by_cases own : step.ordinal = ordinal
    · subst own
      obtain ⟨outcome, after⟩ := alike.change
      obtain ⟨parameter, rest⟩ := ih after
      have kept : ownSteps step.ordinal (step :: steps) =
          step :: ownSteps step.ordinal steps := List.filter_cons_of_pos (by simp)
      have told : ownAnswers step.ordinal (list.answers (step :: steps)) =
          (step, Action.outcome (step.edit.change list)) ::
            ownAnswers step.ordinal ((Action.last (step.edit.change list)).answers steps) :=
        List.filter_cons_of_pos (by simp)
      rw [kept, told, rest, outcome]
      exact ⟨parameter, rfl⟩
    · obtain ⟨parameter, rest⟩ := ih ((alike_change_of_ne own).trans alike)
      have left : ownSteps ordinal (step :: steps) = ownSteps ordinal steps :=
        List.filter_cons_of_neg (by simpa using own)
      have untold : ownAnswers ordinal (list.answers (step :: steps)) =
          ownAnswers ordinal ((Action.last (step.edit.change list)).answers steps) :=
        List.filter_cons_of_neg (by simpa using own)
      rw [left, untold]
      exact ⟨parameter, rest⟩

/-- Where the changes of a parameter are the same, it becomes the same, and they end alike. -/
theorem changed_alike_of_ownSteps {ordinal : Nat} {first second : List SlotEdit}
    (list : ParameterList) (same : ownSteps ordinal first = ownSteps ordinal second) :
    Alike ordinal (list.changed first) (list.changed second) ∧
      ownAnswers ordinal (list.answers first) = ownAnswers ordinal (list.answers second) := by
  have self : Alike ordinal list list := ⟨rfl, rfl⟩
  obtain ⟨left, told⟩ := self.changed_ownSteps first
  obtain ⟨right, told'⟩ := self.changed_ownSteps second
  rw [same] at left told
  exact ⟨left.trans right.symm, told.trans told'.symm⟩

/-- Lists have the same parameters if those of every ordinal are alike. -/
theorem slots_eq_of_alike (alike : ∀ ordinal, Alike ordinal list other) :
    list.slots = other.slots := by
  apply List.ext_getElem?
  intro position
  apply Option.ext
  intro slot
  have counted : position + 1 ≠ 0 := Nat.succ_ne_zero position
  have here : list.slot (position + 1) = .ok slot ↔ list.slots[position]? = some slot := by
    simp [slot_eq_ok]
  have there : other.slot (position + 1) = .ok slot ↔ other.slots[position]? = some slot := by
    simp [slot_eq_ok]
  rw [← here, ← there, (alike (position + 1)).slot_eq]

/-- Lists that were fresh once and have the same parameters have the same outputs, in whatever order
these were declared. -/
theorem outputs_eq_of_slots {count : Nat} {codec : Codec} {edits edits' : List Edit}
    (same : ∀ ordinal, ((ofCount count codec).edited edits).slot ordinal =
      ((ofCount count codec).edited edits').slot ordinal) :
    ((ofCount count codec).edited edits).outputs =
      ((ofCount count codec).edited edits').outputs := by
  have ascending (edits : List Edit) :
      ((ofCount count codec).edited edits).outputs.Pairwise (· < ·) :=
    outputs_ascending (nodup_outputs_edited count codec edits)
  apply (ascending edits).eq_of_mem_iff (ascending edits')
  intro ordinal
  have member (edits : List Edit) : ordinal ∈ ((ofCount count codec).edited edits).outputs ↔
      ∃ slot, ((ofCount count codec).edited edits).slot ordinal = .ok slot ∧
        slot.direction.output = true :=
    (List.mergeSort_perm _ _).mem_iff.trans mem_declared_edited
  rw [member, member, same]

/-- Lists with the same parameters and the same outputs are executed alike. -/
theorem execute_congr (slots : list.slots = other.slots) (outputs : list.outputs = other.outputs)
    (sql : String) : Connection.execute sql list = Connection.execute sql other := by
  have checked : list.checkAllBound = other.checkAllBound := by
    rw [checkAllBound, checkAllBound, slots]
  have requested (connection : Connection) :
      connection.executeRequest sql list = connection.executeRequest sql other := by
    rw [Connection.executeRequest, Connection.executeRequest, slots]
  have settled : Connection.settle list = Connection.settle other := by
    funext payload
    rw [Connection.settle, Connection.settle, outputs]
  simp only [Connection.execute, checked, requested, settled]

/-- Changes of parameters of a fresh list, made in two orders in which those of each parameter have
the same order. All parameters and all outputs are the same, and every change ends alike, whether it
succeeds or not. So the requests are the same, outputs that are read for one list are those that are
read for the other, with the same columns, and an execution with either is the same altogether. -/
theorem turns_lead_to_same_execution (count : Nat) (codec : Codec) (first second : List SlotEdit)
    (same : ∀ ordinal, ownSteps ordinal first = ownSteps ordinal second) :
    let fresh := ofCount count codec
    let one := fresh.changed first
    let two := fresh.changed second
    one.slots = two.slots ∧ one.outputs = two.outputs ∧
      (∀ ordinal,
        ownAnswers ordinal (fresh.answers first) = ownAnswers ordinal (fresh.answers second)) ∧
      (∀ (connection : Connection) sql,
        connection.executeRequest sql one = connection.executeRequest sql two) ∧
      (∀ codec input outputs rest, Outputs.read codec one.outputs input = .ok outputs rest →
        Outputs.read codec two.outputs input = .ok outputs rest ∧
          ∀ ordinal column,
            outputs.columnOf ordinal = .ok column ↔ two.outputs[column]? = some ordinal) ∧
      ∀ sql, Connection.execute sql one = Connection.execute sql two := by
  intro fresh one two
  have turns (ordinal : Nat) := changed_alike_of_ownSteps fresh (same ordinal)
  have alike (ordinal : Nat) : Alike ordinal one two := (turns ordinal).1
  have slots : one.slots = two.slots := slots_eq_of_alike alike
  have outputs : one.outputs = two.outputs := by
    apply outputs_eq_of_slots
    intro ordinal
    exact (alike ordinal).slot_eq
  refine ⟨slots, outputs, ?_, ?_, ?_, execute_congr slots outputs⟩
  · intro ordinal
    exact (turns ordinal).2
  · intro connection sql
    rw [Connection.executeRequest, Connection.executeRequest, slots]
  · intro codec' input found rest read
    rw [outputs] at read
    have apart : two.outputs.Nodup := nodup_outputs_edited count codec _
    have placed : found.ordinals = two.outputs := by rw [(Outputs.of_read_eq_ok read).1]
    refine ⟨read, ?_⟩
    intro ordinal column
    rw [Outputs.columnOf_eq_ok_iff (placed ▸ apart), placed]

/-- Of two parameters, either may be declared an output first. In between, an argument is refused for
the first and a third one is not there. -/
theorem turns_lead_to_same_execution_refused :
    let failing : SlotEdit := ⟨1, .bindValue .integer (.bytes [1])⟩
    let missing : SlotEdit := ⟨3, .retype .integer⟩
    let first : List SlotEdit := [⟨2, .bindOutput .varchar⟩, failing, ⟨1, .bindOutput .bigInt⟩,
      missing, ⟨2, .bindValue .integer (.int 7)⟩]
    let second : List SlotEdit := [failing, missing, ⟨1, .bindOutput .bigInt⟩,
      ⟨2, .bindOutput .varchar⟩, ⟨2, .bindValue .integer (.int 7)⟩]
    let fresh := ofCount 2 ⟨.little, .utf8⟩
    (∀ ordinal, ownSteps ordinal first = ownSteps ordinal second) ∧
      (fresh.changed first).slots = (fresh.changed second).slots ∧
      (fresh.changed first).outputs = (fresh.changed second).outputs ∧
      (fresh.changed first).declared = [2, 1] ∧ (fresh.changed second).declared = [1, 2] := by
  intro failing missing first second fresh
  have same : ∀ ordinal, ownSteps ordinal first = ownSteps ordinal second := by
    intro ordinal
    by_cases one : 1 = ordinal
    · subst one
      rfl
    by_cases two : 2 = ordinal
    · subst two
      rfl
    by_cases three : 3 = ordinal
    · subst three
      rfl
    · simp [ownSteps, first, second, failing, missing, one, two, three]
  obtain ⟨slots, outputs, _⟩ :=
    turns_lead_to_same_execution 2 ⟨.little, .utf8⟩ first second same
  exact ⟨same, slots, outputs, rfl, rfl⟩

end ParameterList
end SqlWire
