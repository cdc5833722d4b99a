import SqlWire.Proofs.Parameter.Declared

/-!
# What is noted about parameters

Beside its argument, a parameter notes whether it was bound and which ways it goes, and the list
notes the ordinals that were declared outputs. An edit that succeeds changes these notes in its own
way (`marksAt_of_ok`), and one that fails leaves them (`marksAt_of_error`). So whatever was done to
a list, its notes tell what was done (`tells_edited`).
-/
namespace SqlWire

/-- Whether the ways a parameter goes are all among others. -/
structure Direction.Within (fewer more : Direction) : Prop where
  /-- An input stays one. -/
  input : fewer.input = true → more.input = true
  /-- An output stays one. -/
  output : fewer.output = true → more.output = true

/-- Ways are among themselves. -/
theorem Direction.Within.refl (direction : Direction) : direction.Within direction := ⟨id, id⟩

/-- Ways that are among some are among those that these are among. -/
theorem Direction.Within.trans {first second third : Direction} (near : first.Within second)
    (far : second.Within third) : first.Within third :=
  ⟨far.input ∘ near.input, far.output ∘ near.output⟩

/-- What is noted about a parameter beside its argument. -/
structure Marks where
  /-- Whether it was bound or declared since the list was last cleared. -/
  bound : Bool
  /-- Which ways it goes. -/
  direction : Direction

/-- The notes about a parameter. -/
def Slot.marks (slot : Slot) : Marks := ⟨slot.bound, slot.direction⟩

namespace Edit

/-- The notes about the parameter with an ordinal after an edit that succeeds. -/
def mark (ordinal : Nat) : Edit → Marks → Marks
  | .bindValue other _ _, marks | .bindNull other _, marks =>
    if other = ordinal then ⟨true, { marks.direction with input := true }⟩ else marks
  | .bindOutput other _, marks =>
    if other = ordinal then ⟨true, { marks.direction with output := true }⟩ else marks
  | .retype _ _, marks | .applyTypes _, marks => marks
  | .clear, marks => { marks with bound := false }

/-- Whether an edit binds an argument to the parameter with an ordinal or declares it an output. -/
def Places (ordinal : Nat) : Edit → Prop
  | .bindValue other _ _ | .bindNull other _ | .bindOutput other _ => other = ordinal
  | .retype _ _ | .applyTypes _ | .clear => False

/-- Whether an edit declares the parameter with an ordinal an output. -/
def Declares (ordinal : Nat) : Edit → Prop
  | .bindOutput other _ => other = ordinal
  | _ => False

variable (ordinal : Nat) (edit : Edit) (marks : Marks)

/-- A parameter is bound after an edit that binds or declares it, and else if it was before and the
edit does not clear the list. -/
theorem bound_mark :
    (edit.mark ordinal marks).bound = true ↔
      edit.Places ordinal ∨ (marks.bound = true ∧ edit ≠ .clear) := by
  cases edit with
  | bindValue other | bindNull other | bindOutput other =>
    by_cases own : other = ordinal <;> simp [mark, Places, own]
  | retype | applyTypes | clear => simp [mark, Places]

/-- No edit takes a way back. -/
theorem within_mark : marks.direction.Within (edit.mark ordinal marks).direction := by
  cases edit with
  | bindValue other | bindNull other =>
    simp only [mark]
    split
    · exact ⟨fun _ => rfl, id⟩
    · exact .refl _
  | bindOutput other =>
    simp only [mark]
    split
    · exact ⟨id, fun _ => rfl⟩
    · exact .refl _
  | retype | applyTypes | clear => exact .refl _

/-- A parameter is an output after an edit that declares it, and else if it was before. -/
theorem output_mark :
    (edit.mark ordinal marks).direction.output = true ↔
      edit.Declares ordinal ∨ marks.direction.output = true := by
  cases edit with
  | bindValue other | bindNull other | bindOutput other =>
    by_cases own : other = ordinal <;> simp [mark, Declares, own]
  | retype | applyTypes | clear => simp [mark, Declares]

end Edit

namespace ParameterList

variable {list after : ParameterList} {edit : Edit}

/-- The notes about the parameter at a place, if there is one. -/
def marksAt (list : ParameterList) (position : Nat) : Option Marks :=
  list.slots[position]?.map Slot.marks

/-- A parameter is noted at the place before its ordinal. -/
theorem marksAt_of_slot {ordinal : Nat} {slot : Slot} (found : list.slot ordinal = .ok slot) :
    ∃ position, ordinal = position + 1 ∧ list.marksAt position = some slot.marks := by
  obtain ⟨counted, there⟩ := slot_eq_ok.mp found
  refine ⟨ordinal - 1, by omega, ?_⟩
  rw [marksAt, there, Option.map_some]

/-- What is noted at a place is noted about the parameter there. -/
theorem exists_slot_of_marksAt {position : Nat} {marks : Marks}
    (noted : list.marksAt position = some marks) :
    ∃ slot, list.slot (position + 1) = .ok slot ∧ slot.marks = marks := by
  obtain ⟨slot, there, same⟩ := Option.map_eq_some_iff.mp noted
  exact ⟨slot, slot_eq_ok.mpr ⟨Nat.succ_ne_zero position, there⟩, same⟩

/-- Replacing a parameter changes the notes about it and no others. -/
theorem marksAt_setSlot {ordinal : Nat} {slot next : Slot} (change : Marks → Marks)
    (found : list.slot ordinal = .ok slot) (changed : next.marks = change slot.marks)
    (position : Nat) :
    (list.setSlot ordinal next).marksAt position =
      (list.marksAt position).map fun marks =>
        if ordinal = position + 1 then change marks else marks := by
  obtain ⟨counted, there⟩ := slot_eq_ok.mp found
  simp only [marksAt, setSlot, List.getElem?_set]
  by_cases here : ordinal = position + 1
  · subst here
    rw [Nat.add_sub_cancel] at there ⊢
    obtain ⟨inside, -⟩ := List.getElem?_eq_some_iff.mp there
    rw [if_pos rfl, if_pos inside, there]
    simp [changed]
  · have elsewhere : ordinal - 1 ≠ position := by omega
    simp [here, elsewhere, Function.comp_def]

/-- Giving a parameter another type changes no notes. -/
theorem marksAt_retype (ordinal : Nat) (type : WireType) (position : Nat) :
    (Action.last (retype ordinal type list)).marksAt position = list.marksAt position := by
  apply last_attempt (motive := fun after => after.marksAt position = list.marksAt position) rfl
  intro next done
  obtain ⟨slot, found, done⟩ := Action.except_bind_eq_ok.mp done
  obtain ⟨encoded, _, done⟩ := Action.except_bind_eq_ok.mp done
  cases done
  have same : ({ slot with type, encoded } : Slot).marks = id slot.marks := rfl
  simpa using marksAt_setSlot id found same position

/-- Giving each argument the type that the server described changes no notes. -/
theorem marksAt_applyTypes (types : List WireType) (position : Nat) :
    (Action.last (applyTypes types list)).marksAt position = list.marksAt position := by
  apply last_applyTypesFrom (motive := fun after => after.marksAt position = list.marksAt position)
    _ rfl
  intro middle ordinal type kept
  exact (marksAt_retype ordinal type position).trans kept

/-- A change that happens as a whole or not at all succeeds with the list that it makes. -/
theorem attempt_eq_ok {change : ParameterList → Except Error ParameterList} :
    attempt change list = .ok () after ↔ change list = .ok after := by
  unfold attempt
  cases change list <;> simp

/-- A change that happens as a whole or not at all fails with the list that it was given. -/
theorem attempt_eq_error {change : ParameterList → Except Error ParameterList} {error : Error} :
    attempt change list = .error error after ↔ change list = .error error ∧ after = list := by
  unfold attempt
  cases change list <;> simp [eq_comm]

/-- An argument is bound when its parameter is there and it has bytes. -/
theorem bindValue_eq_ok {ordinal : Nat} {type : WireType} {argument : Argument} :
    bindValue ordinal type argument list = .ok () after ↔
      ∃ slot encoded, list.slot ordinal = .ok slot ∧
        argument.encode list.codec type = .ok encoded ∧
        list.setSlot ordinal (slot.bind type argument encoded) = after := by
  simp only [bindValue, attempt_eq_ok, Action.except_bind_eq_ok, Except.ok.injEq]
  constructor
  · rintro ⟨slot, found, encoded, made, same⟩
    exact ⟨slot, encoded, found, made, same⟩
  · rintro ⟨slot, encoded, found, made, same⟩
    exact ⟨slot, found, encoded, made, same⟩

/-- An output is declared when its parameter is there. -/
theorem bindOutput_eq_ok {ordinal : Nat} {type : SqlType} :
    bindOutput ordinal type list = .ok () after ↔
      ∃ slot, list.slot ordinal = .ok slot ∧
        { list.setSlot ordinal (slot.declare type) with
          declared :=
            if ordinal ∈ list.declared then list.declared
            else list.declared ++ [ordinal] } = after := by
  simp only [bindOutput, attempt_eq_ok, Action.except_bind_eq_ok, Except.ok.injEq]

/-- An edit other than giving types to all parameters leaves a list as it was when it fails. -/
theorem eq_of_change_eq_error {error : Error} (other : ∀ types, edit ≠ .applyTypes types)
    (failed : edit.change list = .error error after) : after = list := by
  cases edit with
  | bindValue ordinal type argument =>
    have refused : bindValue ordinal type argument list = .error error after := failed
    exact (attempt_eq_error.mp refused).2
  | bindNull ordinal type =>
    have refused : bindValue ordinal type .null list = .error error after := failed
    exact (attempt_eq_error.mp refused).2
  | bindOutput ordinal type =>
    have refused : bindOutput ordinal type list = .error error after := failed
    exact (attempt_eq_error.mp refused).2
  | retype ordinal type =>
    have refused : retype ordinal type list = .error error after := failed
    exact (attempt_eq_error.mp refused).2
  | applyTypes types => exact absurd rfl (other types)
  | clear => cases failed

/-- What holds of a list, and of it after giving types to all parameters, holds after an edit that
fails. -/
theorem of_change_eq_error {motive : ParameterList → Prop} (same : motive list)
    (typed : ∀ types, motive (Action.last (applyTypes types list))) {error : Error}
    (failed : edit.change list = .error error after) : motive after := by
  by_cases all : ∃ types, edit = .applyTypes types
  · obtain ⟨types, rfl⟩ := all
    have refused : applyTypes types list = .error error after := failed
    have kept := typed types
    rwa [refused] at kept
  · rwa [eq_of_change_eq_error (not_exists.mp all) failed]

/-- An edit that succeeds changes the notes about every parameter in its way. -/
theorem marksAt_of_ok (done : edit.change list = .ok () after) (position : Nat) :
    after.marksAt position = (list.marksAt position).map (edit.mark (position + 1)) := by
  have last : Action.last (edit.change list) = after := by rw [done, Action.last_ok]
  cases edit with
  | bindValue ordinal type argument | bindNull ordinal type =>
    obtain ⟨slot, encoded, found, _, rfl⟩ := bindValue_eq_ok.mp done
    exact marksAt_setSlot (fun marks => ⟨true, { marks.direction with input := true }⟩) found rfl
      position
  | bindOutput ordinal type =>
    obtain ⟨slot, found, rfl⟩ := bindOutput_eq_ok.mp done
    exact marksAt_setSlot (fun marks => ⟨true, { marks.direction with output := true }⟩) found rfl
      position
  | retype ordinal type =>
    have same : Edit.mark (position + 1) (.retype ordinal type) = id := rfl
    rw [← last, same, Option.map_id, id]
    exact marksAt_retype ordinal type position
  | applyTypes types =>
    have same : Edit.mark (position + 1) (.applyTypes types) = id := rfl
    rw [← last, same, Option.map_id, id]
    exact marksAt_applyTypes types position
  | clear =>
    rw [← last]
    simp only [marksAt, Edit.change, Action.modify_apply, Action.last_ok, clear, List.getElem?_map,
      Option.map_map]
    rfl

/-- An edit that fails changes no notes. -/
theorem marksAt_of_error {error : Error} (failed : edit.change list = .error error after)
    (position : Nat) : after.marksAt position = list.marksAt position :=
  of_change_eq_error (motive := fun after => after.marksAt position = list.marksAt position) rfl
    (fun types => marksAt_applyTypes types position) failed

/-- An edit that succeeds declares the ordinal that it is to declare, and no other. -/
theorem mem_declared_of_ok (done : edit.change list = .ok () after) (ordinal : Nat) :
    ordinal ∈ after.declared ↔ edit.Declares ordinal ∨ ordinal ∈ list.declared := by
  have last : Action.last (edit.change list) = after := by rw [done, Action.last_ok]
  cases edit with
  | bindValue other type argument | bindNull other type =>
    rw [← last, Edit.change]
    simp [Edit.Declares, bindNull, declared_bindValue]
  | bindOutput other type =>
    obtain ⟨slot, _, rfl⟩ := bindOutput_eq_ok.mp done
    by_cases noted : other ∈ list.declared
    · have kept : other = ordinal → ordinal ∈ list.declared := fun same => same ▸ noted
      simp [Edit.Declares, noted, or_iff_right_of_imp kept]
    · simp [Edit.Declares, noted, or_comm, eq_comm]
  | retype other type =>
    rw [← last, Edit.change]
    simp [Edit.Declares, declared_retype]
  | applyTypes types =>
    rw [← last, Edit.change]
    simp [Edit.Declares, applyTypes, declared_applyTypesFrom]
  | clear =>
    cases done
    simp [Edit.Declares, clear]

/-- An edit that fails declares nothing. -/
theorem declared_of_error {error : Error} (failed : edit.change list = .error error after) :
    after.declared = list.declared :=
  of_change_eq_error (motive := fun after => after.declared = list.declared) rfl
    (fun types => declared_applyTypesFrom 1 types) failed

/-- The parameter that an edit declares with success is there. -/
theorem exists_marks_of_declares {ordinal : Nat} (done : edit.change list = .ok () after)
    (declares : edit.Declares ordinal) :
    ∃ position marks, ordinal = position + 1 ∧ list.marksAt position = some marks := by
  cases edit with
  | bindOutput other type =>
    obtain ⟨slot, found, _⟩ := bindOutput_eq_ok.mp done
    obtain ⟨position, same, noted⟩ := marksAt_of_slot found
    exact ⟨position, _, declares.symm.trans same, noted⟩
  | _ => cases declares

/-- Whether the list notes as outputs exactly the ordinals of the parameters that go out. -/
def Tallies (list : ParameterList) : Prop :=
  ∀ ordinal, ordinal ∈ list.declared ↔
    ∃ position marks, ordinal = position + 1 ∧ list.marksAt position = some marks ∧
      marks.direction.output = true

/-- An edit keeps the outputs noted. -/
theorem Tallies.change (tallies : list.Tallies) (edit : Edit) :
    (Action.last (edit.change list)).Tallies := by
  intro ordinal
  cases ended : edit.change list with
  | error error after =>
    simp only [Action.last_error, declared_of_error ended, marksAt_of_error ended]
    exact tallies ordinal
  | ok done after =>
    simp only [Action.last_ok, mem_declared_of_ok ended, tallies ordinal, marksAt_of_ok ended,
      Option.map_eq_some_iff]
    constructor
    · rintro (declares | ⟨position, marks, rfl, noted, goesOut⟩)
      · obtain ⟨position, marks, rfl, noted⟩ := exists_marks_of_declares ended declares
        exact ⟨position, _, rfl, ⟨marks, noted, rfl⟩, (edit.output_mark _ _).mpr (.inl declares)⟩
      · exact ⟨position, _, rfl, ⟨marks, noted, rfl⟩, (edit.output_mark _ _).mpr (.inr goesOut)⟩
    · rintro ⟨position, _, rfl, ⟨marks, noted, rfl⟩, goesOut⟩
      rcases (edit.output_mark _ _).mp goesOut with declares | before
      · exact .inl declares
      · exact .inr ⟨position, marks, rfl, noted, before⟩

/-- A fresh list notes no outputs, and none of its parameters goes out. -/
theorem tallies_ofCount (count : Nat) (codec : Codec) : (ofCount count codec).Tallies := by
  intro ordinal
  constructor
  · intro noted
    cases noted
  · rintro ⟨position, marks, rfl, noted, goesOut⟩
    obtain ⟨slot, there, rfl⟩ := Option.map_eq_some_iff.mp noted
    rw [List.eq_of_mem_replicate (List.mem_of_getElem? there)] at goesOut
    cases goesOut

/-- Whether edits bound an argument to the parameter with an ordinal or declared it an output, with
success, and did not clear the list since. -/
def Placed (list : ParameterList) (edits : List Edit) (ordinal : Nat) : Prop :=
  ∃ front edit back, edits = front ++ edit :: back ∧ edit.Places ordinal ∧
    (∃ after, edit.change (list.edited front) = .ok () after) ∧ .clear ∉ back

/-- Of edits, the first one placed a parameter, or the others did after it. -/
theorem placed_cons {edits : List Edit} {ordinal : Nat} :
    list.Placed (edit :: edits) ordinal ↔
      (edit.Places ordinal ∧ (∃ after, edit.change list = .ok () after) ∧ .clear ∉ edits) ∨
        (Action.last (edit.change list)).Placed edits ordinal := by
  constructor
  · rintro ⟨front, placing, back, split, places, succeeded, since⟩
    cases front with
    | nil =>
      obtain ⟨rfl, rfl⟩ := List.cons.inj split
      exact .inl ⟨places, succeeded, since⟩
    | cons first front =>
      obtain ⟨rfl, rfl⟩ := List.cons.inj split
      exact .inr ⟨front, placing, back, rfl, places, succeeded, since⟩
  · rintro (⟨places, succeeded, since⟩ | ⟨front, placing, back, rfl, places, succeeded, since⟩)
    · exact ⟨[], edit, edits, rfl, places, succeeded, since⟩
    · exact ⟨edit :: front, placing, back, rfl, places, succeeded, since⟩

/-- What one edit does to the note that a parameter is bound. -/
theorem exists_marksAt_change {position : Nat} {marks : Marks}
    (noted : list.marksAt position = some marks) (edit : Edit) :
    ∃ next, (Action.last (edit.change list)).marksAt position = some next ∧
      marks.direction.Within next.direction ∧
      (next.bound = true ↔
        (edit.Places (position + 1) ∧ ∃ after, edit.change list = .ok () after) ∨
          (marks.bound = true ∧ edit ≠ .clear)) := by
  cases ended : edit.change list with
  | ok done after =>
    refine ⟨edit.mark (position + 1) marks, ?_, edit.within_mark _ _, ?_⟩
    · rw [Action.last_ok, marksAt_of_ok ended, noted, Option.map_some]
    · simp [edit.bound_mark]
  | error error after =>
    refine ⟨marks, ?_, .refl _, ?_⟩
    · rw [Action.last_error, marksAt_of_error ended, noted]
    · have other : edit ≠ .clear := by
        rintro rfl
        cases ended
      simp [other]

/-- After edits a parameter goes at least the ways it went before, and it is bound exactly when they
placed it, or when it was bound before and they did not clear the list. -/
theorem exists_marksAt_edited {position : Nat} {marks : Marks}
    (noted : list.marksAt position = some marks) (edits : List Edit) :
    ∃ next, (list.edited edits).marksAt position = some next ∧
      marks.direction.Within next.direction ∧
      (next.bound = true ↔
        list.Placed edits (position + 1) ∨ (marks.bound = true ∧ .clear ∉ edits)) := by
  induction edits generalizing list marks with
  | nil =>
    refine ⟨marks, noted, .refl _, ?_⟩
    simp [Placed]
  | cons edit rest ih =>
    obtain ⟨middle, changed, near, first⟩ := exists_marksAt_change noted edit
    obtain ⟨next, later, far, bound⟩ := ih changed
    refine ⟨next, later, near.trans far, ?_⟩
    rw [bound, first, placed_cons, List.mem_cons, not_or, ne_comm, or_and_right, and_assoc,
      and_assoc, or_left_comm, or_assoc]

/-- A list is refused for the first parameter that is not bound. -/
theorem checkAllBound_eq_error {error : Error} :
    list.checkAllBound = .error error ↔
      ∃ position marks, error = .parameter (.unbound (position + 1)) ∧
        list.marksAt position = some marks ∧ marks.bound = false ∧
        ∀ earlier < position, ∀ marks, list.marksAt earlier = some marks → marks.bound = true := by
  have refused : list.checkAllBound = .error error ↔
      ∃ position, list.slots.findIdx? (! ·.bound) = some position ∧
        error = .parameter (.unbound (position + 1)) := by
    unfold checkAllBound
    cases list.slots.findIdx? (! ·.bound) <;> simp [eq_comm]
  simp only [refused, List.findIdx?_eq_some_iff_getElem, marksAt, Option.map_eq_some_iff]
  constructor
  · rintro ⟨position, ⟨inside, unbound, before⟩, rfl⟩
    refine ⟨position, _, rfl, ⟨_, List.getElem?_eq_getElem inside, rfl⟩,
      by simpa [Slot.marks] using unbound, ?_⟩
    rintro earlier less _ ⟨slot, there, rfl⟩
    obtain ⟨room, rfl⟩ := List.getElem?_eq_some_iff.mp there
    simpa [Slot.marks] using before earlier less
  · rintro ⟨position, _, rfl, ⟨slot, there, rfl⟩, unbound, before⟩
    obtain ⟨inside, rfl⟩ := List.getElem?_eq_some_iff.mp there
    have unmarked : list.slots[position].bound = false := unbound
    refine ⟨position, ⟨inside, by simpa using unmarked, ?_⟩, rfl⟩
    intro earlier less
    have room : earlier < list.slots.length := Nat.lt_trans less inside
    have marked : list.slots[earlier].bound = true :=
      before earlier less _ ⟨_, List.getElem?_eq_getElem room, rfl⟩
    simpa using marked

/-- Outputs that differ are in strictly ascending order. -/
theorem outputs_ascending (distinct : list.outputs.Nodup) : list.outputs.Pairwise (· < ·) := by
  have sorted : list.outputs.Pairwise fun first second => decide (first ≤ second) = true := by
    apply List.pairwise_mergeSort
    · intro _ _ _ low high
      exact decide_eq_true (Nat.le_trans (of_decide_eq_true low) (of_decide_eq_true high))
    · intro first second
      simpa using Nat.le_total first second
  refine (sorted.and distinct).imp ?_
  intro first second both
  exact Nat.lt_of_le_of_ne (of_decide_eq_true both.1) both.2

variable {count : Nat} {codec : Codec} {edits : List Edit}

/-- There is a note about every parameter of a list, whatever was done to it. -/
theorem exists_marksAt_iff {position : Nat} :
    (∃ marks, ((ofCount count codec).edited edits).marksAt position = some marks) ↔
      position < count := by
  have length := (consistent_edited count codec edits).length_eq
  constructor
  · rintro ⟨marks, noted⟩
    obtain ⟨slot, there, _⟩ := Option.map_eq_some_iff.mp noted
    exact length ▸ (List.getElem?_eq_some_iff.mp there).1
  · intro inside
    rw [← length] at inside
    exact ⟨_, Option.map_eq_some_iff.mpr ⟨_, List.getElem?_eq_getElem inside, rfl⟩⟩

/-- Whatever was done to a list, a parameter is bound exactly when it was placed since the list was
last cleared. -/
theorem bound_iff_placed {position : Nat} {marks : Marks}
    (noted : ((ofCount count codec).edited edits).marksAt position = some marks) :
    marks.bound = true ↔ (ofCount count codec).Placed edits (position + 1) := by
  have inside : position < count := exists_marksAt_iff.mp ⟨marks, noted⟩
  have fresh : (ofCount count codec).marksAt position = some (default : Slot).marks := by
    simp [marksAt, ofCount, inside]
  obtain ⟨next, later, _, bound⟩ := exists_marksAt_edited fresh edits
  rw [noted] at later
  cases later
  simp [bound, Slot.marks, default]

/-- The ordinals of a list count from one to its size. -/
theorem range_of_slot {ordinal : Nat} {slot : Slot}
    (found : ((ofCount count codec).edited edits).slot ordinal = .ok slot) :
    1 ≤ ordinal ∧ ordinal ≤ count := by
  obtain ⟨position, rfl, noted⟩ := marksAt_of_slot found
  have inside : position < count := exists_marksAt_iff.mp ⟨_, noted⟩
  omega

/-- The ordinals that are noted as outputs are those of the parameters that go out. -/
theorem mem_declared_edited {ordinal : Nat} :
    ordinal ∈ ((ofCount count codec).edited edits).declared ↔
      ∃ slot, ((ofCount count codec).edited edits).slot ordinal = .ok slot ∧
        slot.direction.output = true := by
  have tallies : ((ofCount count codec).edited edits).Tallies :=
    edited_of_change (fun _ edit tallies => tallies.change edit) (tallies_ofCount count codec) edits
  rw [tallies ordinal]
  constructor
  · rintro ⟨position, marks, rfl, noted, goesOut⟩
    obtain ⟨slot, found, rfl⟩ := exists_slot_of_marksAt noted
    exact ⟨slot, found, goesOut⟩
  · rintro ⟨slot, found, goesOut⟩
    obtain ⟨position, rfl, noted⟩ := marksAt_of_slot found
    exact ⟨position, _, rfl, noted, goesOut⟩

/-- Whatever was done to a list, it is refused for the first parameter that was not placed since it
was last cleared. -/
theorem refused_iff_placed {error : Error} :
    ((ofCount count codec).edited edits).checkAllBound = .error error ↔
      ∃ ordinal, error = .parameter (.unbound ordinal) ∧ 1 ≤ ordinal ∧ ordinal ≤ count ∧
        ¬ (ofCount count codec).Placed edits ordinal ∧
        ∀ earlier, 1 ≤ earlier → earlier < ordinal →
          (ofCount count codec).Placed edits earlier := by
  rw [checkAllBound_eq_error]
  constructor
  · rintro ⟨position, marks, rfl, noted, unbound, before⟩
    have inside : position < count := exists_marksAt_iff.mp ⟨marks, noted⟩
    refine ⟨position + 1, rfl, by omega, by omega, ?_, ?_⟩
    · rw [← bound_iff_placed noted, unbound]
      exact Bool.false_ne_true
    · intro earlier counted less
      obtain ⟨position, rfl⟩ := Nat.exists_eq_add_of_le' counted
      obtain ⟨marks, noted⟩ := exists_marksAt_iff.mpr (show position < count by omega)
      exact (bound_iff_placed noted).mp (before position (by omega) marks noted)
  · rintro ⟨ordinal, rfl, counted, inside, unplaced, before⟩
    obtain ⟨position, rfl⟩ := Nat.exists_eq_add_of_le' counted
    obtain ⟨marks, noted⟩ := exists_marksAt_iff.mpr (show position < count by omega)
    refine ⟨position, marks, rfl, noted, ?_, ?_⟩
    · exact Bool.eq_false_iff.mpr (mt (bound_iff_placed noted).mp unplaced)
    · intro earlier less marks noted
      exact (bound_iff_placed noted).mpr (before (earlier + 1) (by omega) (by omega))

/-- What a list tells about the edits that were made to it when it was fresh. -/
structure Tells (count : Nat) (codec : Codec) (edits : List Edit) (list : ParameterList) : Prop
    extends list.Consistent codec count where
  /-- A parameter is bound when it was placed. -/
  bound_iff : ∀ ordinal slot, list.slot ordinal = .ok slot →
    (slot.bound = true ↔ (ofCount count codec).Placed edits ordinal)
  /-- The list is refused for the first parameter that was not placed. -/
  refused_iff : ∀ error, list.checkAllBound = .error error ↔
    ∃ ordinal, error = .parameter (.unbound ordinal) ∧ 1 ≤ ordinal ∧ ordinal ≤ count ∧
      ¬ (ofCount count codec).Placed edits ordinal ∧
      ∀ earlier, 1 ≤ earlier → earlier < ordinal → (ofCount count codec).Placed edits earlier
  /-- The ordinals that are noted as outputs differ. -/
  nodup : list.declared.Nodup
  /-- They are ordinals of the list. -/
  range : ∀ ordinal ∈ list.declared, 1 ≤ ordinal ∧ ordinal ≤ count
  /-- An ordinal is noted as an output when its parameter goes out. -/
  mem_declared_iff : ∀ ordinal, ordinal ∈ list.declared ↔
    ∃ slot, list.slot ordinal = .ok slot ∧ slot.direction.output = true
  /-- The ordinals of the outputs ascend. -/
  ascending : list.outputs.Pairwise (· < ·)
  /-- These are the ordinals that are noted. -/
  mem_outputs_iff : ∀ ordinal, ordinal ∈ list.outputs ↔ ordinal ∈ list.declared
  /-- No parameter loses a way that it goes, whatever else is done to the list. -/
  within : ∀ ordinal slot, list.slot ordinal = .ok slot → ∀ later,
    ∃ next, (list.edited later).slot ordinal = .ok next ∧ slot.direction.Within next.direction

/-- Whatever was done to a fresh list of parameters, with success or not, the bytes of each are
those of its argument, and the notes of the list tell which edits placed and declared it. -/
theorem tells_edited (count : Nat) (codec : Codec) (edits : List Edit) :
    ((ofCount count codec).edited edits).Tells count codec edits where
  toConsistent := consistent_edited count codec edits
  bound_iff := by
    intro ordinal slot found
    obtain ⟨position, rfl, noted⟩ := marksAt_of_slot found
    exact bound_iff_placed noted
  refused_iff := fun _ => refused_iff_placed
  nodup := nodup_declared_edited List.nodup_nil edits
  range := by
    intro ordinal noted
    obtain ⟨slot, found, _⟩ := mem_declared_edited.mp noted
    exact range_of_slot found
  mem_declared_iff := fun _ => mem_declared_edited
  ascending := outputs_ascending (nodup_outputs_edited count codec edits)
  mem_outputs_iff := fun ordinal => (List.mergeSort_perm _ _).mem_iff
  within := by
    intro ordinal slot found later
    obtain ⟨position, rfl, noted⟩ := marksAt_of_slot found
    obtain ⟨marks, after, within, _⟩ := exists_marksAt_edited noted later
    obtain ⟨next, there, rfl⟩ := exists_slot_of_marksAt after
    exact ⟨next, there, within⟩

/-- An argument that cannot be sent is not bound, so the list is refused for its parameter. -/
example :
    ((ofCount 2 ⟨.little, .utf8⟩).edited
      [.bindOutput 2 .varchar, .bindValue 1 .integer (.bytes [1])]).checkAllBound =
        .error (.parameter (.unbound 1)) := rfl

end ParameterList
end SqlWire
