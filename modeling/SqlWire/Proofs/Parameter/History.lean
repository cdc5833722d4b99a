import SqlWire.Action
import SqlWire.Parameter.List

/-!
# Parameters after any changes

A list of parameters is changed by binding, declaring, retyping and clearing, in any order and with
or without success. Whatever was done to it, the bytes of every parameter are those of its argument
under its type, and a parameter to which nothing was ever bound has no argument
(`consistent_edited`).
-/
namespace SqlWire

/-- One change of a parameter list. -/
inductive Edit where
  /-- Bind an argument. -/
  | bindValue (ordinal : Nat) (type : WireType) (argument : Argument)
  /-- Bind null. -/
  | bindNull (ordinal : Nat) (type : WireType)
  /-- Declare an output. -/
  | bindOutput (ordinal : Nat) (type : SqlType)
  /-- Give a parameter another type. -/
  | retype (ordinal : Nat) (type : WireType)
  /-- Give each argument the type that the server described. -/
  | applyTypes (types : List WireType)
  /-- Forget arguments and types. -/
  | clear

/-- What an edit does. -/
def Edit.change : Edit → ParameterList.Change
  | .bindValue ordinal type argument => ParameterList.bindValue ordinal type argument
  | .bindNull ordinal type => ParameterList.bindNull ordinal type
  | .bindOutput ordinal type => ParameterList.bindOutput ordinal type
  | .retype ordinal type => ParameterList.retype ordinal type
  | .applyTypes types => ParameterList.applyTypes types
  | .clear => modify ParameterList.clear

/-- Whether the bytes of a parameter are those of its argument under its type. Without input there
is no argument, so a type may be declared then without making bytes. -/
structure Slot.Consistent (codec : Codec) (slot : Slot) : Prop where
  /-- The bytes are up to date. -/
  encode_eq : slot.argument.encode codec slot.type = .ok slot.encoded
  /-- Without input there is no argument. -/
  argument_eq : slot.direction.input = false → slot.argument = .null

namespace Slot

/-- Null has no bytes under any type. -/
theorem encode_null (codec : Codec) (type : WireType) : Argument.null.encode codec type = .ok [] :=
  rfl

variable {codec : Codec} {slot : Slot}

/-- A parameter before anything is done to it. -/
theorem consistent_default (codec : Codec) : (default : Slot).Consistent codec := ⟨rfl, fun _ => rfl⟩

/-- Binding an argument with its bytes. -/
theorem consistent_bind {type : WireType} {argument : Argument} {encoded : Bytes}
    (made : argument.encode codec type = .ok encoded) :
    (slot.bind type argument encoded).Consistent codec := ⟨made, nofun⟩

/-- Declaring an output. -/
theorem Consistent.declare (consistent : slot.Consistent codec) (type : SqlType) :
    (slot.declare type).Consistent codec := by
  refine ⟨?_, consistent.argument_eq⟩
  cases input : slot.direction.input with
  | true => simpa [Slot.declare, input] using consistent.encode_eq
  | false =>
    have absent := consistent.argument_eq input
    have bytes := consistent.encode_eq
    rw [absent, encode_null] at bytes
    simpa [Slot.declare, input, absent, encode_null] using bytes

/-- Another type with the bytes that the argument has under it. -/
theorem Consistent.retype (consistent : slot.Consistent codec) {type : WireType} {encoded : Bytes}
    (made : slot.argument.encode codec type = .ok encoded) :
    ({ slot with type, encoded } : Slot).Consistent codec := ⟨made, consistent.argument_eq⟩

/-- Forgetting argument and type. -/
theorem consistent_clear (codec : Codec) (slot : Slot) : slot.clear.Consistent codec :=
  ⟨rfl, fun _ => rfl⟩

end Slot

namespace ParameterList

/-- The list after edits, one after the other, whatever comes of each. -/
def edited (list : ParameterList) (edits : List Edit) : ParameterList :=
  edits.foldl (fun list edit => Action.last (edit.change list)) list

/-- What edits keep: the codec, the number of parameters, and that each is consistent. -/
structure Consistent (codec : Codec) (count : Nat) (list : ParameterList) : Prop where
  /-- The codec stays. -/
  codec_eq : list.codec = codec
  /-- No parameter comes or goes. -/
  length_eq : list.slots.length = count
  /-- The bytes of each parameter are up to date. -/
  slots : ∀ slot ∈ list.slots, slot.Consistent codec

variable {codec : Codec} {count : Nat} {list : ParameterList}

/-- A parameter is found exactly at the place before its ordinal. -/
theorem slot_eq_ok {ordinal : Nat} {slot : Slot} :
    list.slot ordinal = .ok slot ↔ ordinal ≠ 0 ∧ list.slots[ordinal - 1]? = some slot := by
  unfold ParameterList.slot
  split
  · rename_i zero
    simp [zero]
  · rename_i counted
    cases list.slots[ordinal - 1]? <;> simp [counted]

/-- The parameter with an ordinal is one of the list. -/
theorem mem_of_slot {ordinal : Nat} {slot : Slot} (found : list.slot ordinal = .ok slot) :
    slot ∈ list.slots := List.mem_of_getElem? (slot_eq_ok.mp found).2

/-- A list before anything is done to it. -/
theorem consistent_ofCount (count : Nat) (codec : Codec) :
    (ofCount count codec).Consistent codec count where
  codec_eq := rfl
  length_eq := List.length_replicate
  slots := by
    intro slot member
    rw [List.eq_of_mem_replicate member]
    exact Slot.consistent_default codec

/-- Replacing a parameter. -/
theorem Consistent.setSlot (consistent : list.Consistent codec count) {slot : Slot}
    (sound : slot.Consistent codec) (ordinal : Nat) :
    (list.setSlot ordinal slot).Consistent codec count where
  codec_eq := consistent.codec_eq
  length_eq := List.length_set.trans consistent.length_eq
  slots := by
    intro other member
    obtain kept | rfl := List.mem_or_eq_of_mem_set member
    · exact consistent.slots other kept
    · exact sound

/-- A change that happens as a whole or not at all leaves the list as it was or as it makes it. -/
theorem last_attempt {motive : ParameterList → Prop}
    {change : ParameterList → Except Error ParameterList} (kept : motive list)
    (changed : ∀ next, change list = .ok next → motive next) :
    motive (Action.last (attempt change list)) := by
  unfold attempt
  cases done : change list with
  | ok next => exact changed next done
  | error error => exact kept

/-- Binding an argument. -/
theorem Consistent.bindValue (consistent : list.Consistent codec count) (ordinal : Nat)
    (type : WireType) (argument : Argument) :
    (Action.last (bindValue ordinal type argument list)).Consistent codec count := by
  apply last_attempt consistent
  intro next done
  obtain ⟨slot, _, done⟩ := Action.except_bind_eq_ok.mp done
  obtain ⟨encoded, made, done⟩ := Action.except_bind_eq_ok.mp done
  cases done
  rw [consistent.codec_eq] at made
  exact consistent.setSlot (Slot.consistent_bind made) ordinal

/-- Declaring an output. -/
theorem Consistent.bindOutput (consistent : list.Consistent codec count) (ordinal : Nat)
    (type : SqlType) : (Action.last (bindOutput ordinal type list)).Consistent codec count := by
  apply last_attempt consistent
  intro next done
  obtain ⟨slot, found, done⟩ := Action.except_bind_eq_ok.mp done
  cases done
  have declared := (consistent.slots slot (mem_of_slot found)).declare type
  have changed := consistent.setSlot declared ordinal
  exact ⟨changed.codec_eq, changed.length_eq, changed.slots⟩

/-- Giving a parameter another type. -/
theorem Consistent.retype (consistent : list.Consistent codec count) (ordinal : Nat)
    (type : WireType) : (Action.last (retype ordinal type list)).Consistent codec count := by
  apply last_attempt consistent
  intro next done
  obtain ⟨slot, found, done⟩ := Action.except_bind_eq_ok.mp done
  obtain ⟨encoded, made, done⟩ := Action.except_bind_eq_ok.mp done
  cases done
  rw [consistent.codec_eq] at made
  exact consistent.setSlot ((consistent.slots slot (mem_of_slot found)).retype made) ordinal

/-- What giving one parameter another type keeps, giving types to all of them keeps. -/
theorem last_applyTypesFrom {motive : ParameterList → Prop}
    (step : ∀ list ordinal type, motive list → motive (Action.last (retype ordinal type list)))
    (before : motive list) (ordinal : Nat) (types : List WireType) :
    motive (Action.last (applyTypesFrom ordinal types list)) := by
  induction types generalizing ordinal list with
  | nil => exact before
  | cons type rest ih =>
    unfold applyTypesFrom
    rw [Action.bind_of_ok (Action.get_apply list)]
    cases list.slots[ordinal - 1]? with
    | none => exact before
    | some slot =>
      have retyped := step list ordinal type before
      dsimp only
      split
      · apply Action.last_bind
        · intro error stopped failed
          rwa [failed] at retyped
        · intro done changed succeeded
          rw [succeeded] at retyped
          exact ih retyped (ordinal + 1)
      · exact ih before (ordinal + 1)

/-- Giving each argument the type that the server described. -/
theorem Consistent.applyTypesFrom (consistent : list.Consistent codec count) (ordinal : Nat)
    (types : List WireType) :
    (Action.last (applyTypesFrom ordinal types list)).Consistent codec count :=
  last_applyTypesFrom (fun _ ordinal type consistent => consistent.retype ordinal type) consistent
    ordinal types

/-- Forgetting arguments and types. -/
theorem Consistent.clear (consistent : list.Consistent codec count) :
    list.clear.Consistent codec count where
  codec_eq := consistent.codec_eq
  length_eq := (List.length_map Slot.clear).trans consistent.length_eq
  slots := by
    intro slot member
    obtain ⟨before, _, rfl⟩ := List.mem_map.mp member
    exact Slot.consistent_clear codec before

/-- Any edit. -/
theorem Consistent.change (consistent : list.Consistent codec count) (edit : Edit) :
    (Action.last (edit.change list)).Consistent codec count := by
  cases edit with
  | bindValue ordinal type argument => exact consistent.bindValue ordinal type argument
  | bindNull ordinal type => exact consistent.bindValue ordinal type .null
  | bindOutput ordinal type => exact consistent.bindOutput ordinal type
  | retype ordinal type => exact consistent.retype ordinal type
  | applyTypes types => exact consistent.applyTypesFrom 1 types
  | clear => exact consistent.clear

/-- What one edit keeps, edits keep. -/
theorem edited_of_change {motive : ParameterList → Prop}
    (step : ∀ list (edit : Edit), motive list → motive (Action.last (edit.change list)))
    (before : motive list) (edits : List Edit) : motive (list.edited edits) := by
  induction edits generalizing list with
  | nil => exact before
  | cons edit rest ih => exact ih (step list edit before)

/-- Any edits. -/
theorem Consistent.edited (consistent : list.Consistent codec count) (edits : List Edit) :
    (list.edited edits).Consistent codec count :=
  edited_of_change (fun _ edit consistent => consistent.change edit) consistent edits

/-- A list after any edits. -/
theorem consistent_edited (count : Nat) (codec : Codec) (edits : List Edit) :
    ((ofCount count codec).edited edits).Consistent codec count :=
  (consistent_ofCount count codec).edited edits

end ParameterList
end SqlWire
