import SqlWire.Proofs.Parameter.History

/-!
# A parameter list that is used again

Clearing a list forgets arguments and types but not directions. So a list that was used, cleared and
bound again is the fresh list to which the same was bound, laid over what the used one keeps
(`edited_clear`). A parameter that once had an input and is only declared an output afterwards keeps
no type at all, where a fresh one takes the type of the declaration; nothing else differs but
directions and declarations (`reused_differs_in_output_types`).
-/
namespace SqlWire

/-- What binds an argument or declares an output. -/
inductive Binding where
  /-- Bind an argument. -/
  | value (ordinal : Nat) (type : WireType) (argument : Argument)
  /-- Bind null. -/
  | null (ordinal : Nat) (type : WireType)
  /-- Declare an output. -/
  | output (ordinal : Nat) (type : SqlType)

namespace Binding

/-- The edit that does it. -/
def edit : Binding → Edit
  | .value ordinal type argument => .bindValue ordinal type argument
  | .null ordinal type => .bindNull ordinal type
  | .output ordinal type => .bindOutput ordinal type

/-- The type of the last declaration of an ordinal, after one more binding. -/
def redeclare (ordinal : Nat) (earlier : Option SqlType) : Binding → Option SqlType
  | .output other type => if other = ordinal then some type else earlier
  | _ => earlier

/-- The type under which the last of some bindings declares an ordinal an output. -/
def declared? (ordinal : Nat) (bindings : List Binding) : Option SqlType :=
  bindings.foldl (redeclare ordinal) none

end Binding

namespace Slot

/-- The parameter of a fresh list, laid over the one of a list that was used before and cleared. The
directions add up. A type that was only declared does not show where an input was bound before. -/
def atop (fresh used : Slot) : Slot :=
  { fresh with
    type := if used.direction.input && !fresh.direction.input then .unspecified else fresh.type
    direction :=
      ⟨used.direction.input || fresh.direction.input,
        used.direction.output || fresh.direction.output⟩ }

/-- A cleared parameter is a fresh one laid over it. -/
theorem clear_eq_atop (used : Slot) : used.clear = (default : Slot).atop used := by
  simp [clear, atop, default]

/-- Binding an argument does not depend on what a parameter is laid over. -/
theorem atop_bind (fresh used : Slot) (type : WireType) (argument : Argument) (encoded : Bytes) :
    (fresh.atop used).bind type argument encoded = (fresh.bind type argument encoded).atop used := by
  simp [bind, atop]

/-- Declaring an output does not, either. -/
theorem atop_declare (fresh used : Slot) (type : SqlType) :
    (fresh.atop used).declare type = (fresh.declare type).atop used := by
  cases before : used.direction.input <;> cases since : fresh.direction.input <;>
    simp [declare, atop, before, since]

/-- Whether a parameter without input has the type of its declaration, or none if it has none. -/
def TypedBy (declared : Option SqlType) (slot : Slot) : Prop :=
  slot.direction.input = false → slot.type = declared.elim .unspecified SqlType.wireType

/-- A declaration gives its type to a parameter without input. -/
theorem typedBy_declare (slot : Slot) (type : SqlType) : (slot.declare type).TypedBy (some type) := by
  intro none
  have absent : slot.direction.input = false := none
  simp [declare, absent]

end Slot

namespace ParameterList

/-- A fresh list, laid over one of as many parameters that was used before and cleared. Ordinals
declared before stay in front. -/
def atop (fresh used : ParameterList) : ParameterList :=
  { fresh with
    slots := List.zipWith Slot.atop fresh.slots used.slots
    declared := used.declared ++ fresh.declared.filter (· ∉ used.declared) }

variable {fresh used : ParameterList}

/-- A list that is laid over another of as many parameters has as many. -/
theorem size_atop (same : used.slots.length = fresh.slots.length) :
    (fresh.atop used).size = fresh.size := by
  simp [size, atop, same]

/-- The parameters of a list that is laid over another are laid over its parameters. -/
theorem slot_atop (same : used.slots.length = fresh.slots.length) (ordinal : Nat) :
    (∃ error, fresh.slot ordinal = .error error ∧ (fresh.atop used).slot ordinal = .error error) ∨
      ∃ slot before, fresh.slot ordinal = .ok slot ∧ used.slots[ordinal - 1]? = some before ∧
        (fresh.atop used).slot ordinal = .ok (slot.atop before) := by
  have placed : (fresh.atop used).slots[ordinal - 1]? =
      (List.zipWith Slot.atop fresh.slots used.slots)[ordinal - 1]? := rfl
  rw [List.getElem?_zipWith] at placed
  unfold ParameterList.slot
  rw [placed]
  split
  · exact .inl ⟨_, rfl, by simp [ordinalError, size_atop same]⟩
  · cases found : fresh.slots[ordinal - 1]? with
    | none => exact .inl ⟨_, rfl, by simp [ordinalError, size_atop same]⟩
    | some slot =>
      have inside : ordinal - 1 < used.slots.length := by
        rw [same]
        exact (List.getElem?_eq_some_iff.mp found).1
      rw [List.getElem?_eq_getElem inside]
      exact .inr ⟨slot, _, rfl, rfl, rfl⟩

/-- Replacing a parameter of a list that is laid over another replaces the one laid over it. -/
theorem setSlot_atop {ordinal : Nat} {before : Slot}
    (found : used.slots[ordinal - 1]? = some before) (slot : Slot) :
    (fresh.atop used).setSlot ordinal (slot.atop before) = (fresh.setSlot ordinal slot).atop used := by
  obtain ⟨inside, rfl⟩ := List.getElem?_eq_some_iff.mp found
  have slots : (List.zipWith Slot.atop fresh.slots used.slots).set (ordinal - 1)
      (slot.atop used.slots[ordinal - 1]) =
        List.zipWith Slot.atop (fresh.slots.set (ordinal - 1) slot) used.slots := by
    apply List.ext_getElem?
    intro position
    rw [List.getElem?_zipWith, List.getElem?_set, List.getElem?_set, List.getElem?_zipWith]
    by_cases here : ordinal - 1 = position
    · subst here
      by_cases room : ordinal - 1 < fresh.slots.length
      · have shared : ordinal - 1 < min fresh.slots.length used.slots.length := by omega
        simp [room, inside, shared]
      · have beyond : ¬ ordinal - 1 < min fresh.slots.length used.slots.length := by omega
        rw [if_pos rfl, if_pos rfl, List.length_zipWith, if_neg beyond, if_neg room]
    · simp [here]
  simp only [setSlot, atop, slots]

/-- A binding does to a list that is laid over another what it does to the list. -/
theorem change_atop (same : used.slots.length = fresh.slots.length) (binding : Binding) :
    Action.last (binding.edit.change (fresh.atop used)) =
      (Action.last (binding.edit.change fresh)).atop used := by
  have bound (ordinal : Nat) (type : WireType) (argument : Argument) :
      Action.last (bindValue ordinal type argument (fresh.atop used)) =
        (Action.last (bindValue ordinal type argument fresh)).atop used := by
    have codec : (fresh.atop used).codec = fresh.codec := rfl
    obtain ⟨error, missing, missed⟩ | ⟨slot, before, found, below, laid⟩ := slot_atop same ordinal
    · simp only [bindValue, attempt, bind, Except.bind, missing, missed, Action.last_error]
    · simp only [bindValue, attempt, bind, Except.bind, found, laid, codec]
      cases argument.encode fresh.codec type with
      | error error => rfl
      | ok encoded =>
        simp only [Action.last_ok]
        rw [Slot.atop_bind, setSlot_atop below]
  cases binding with
  | value ordinal type argument => exact bound ordinal type argument
  | null ordinal type => exact bound ordinal type .null
  | output ordinal type =>
    obtain ⟨error, missing, missed⟩ | ⟨slot, before, found, below, laid⟩ := slot_atop same ordinal
    · simp only [Binding.edit, Edit.change, bindOutput, attempt, bind, Except.bind, missing, missed,
        Action.last_error]
    · simp only [Binding.edit, Edit.change, bindOutput, attempt, bind, Except.bind, found, laid,
        Action.last_ok]
      rw [Slot.atop_declare, setSlot_atop below]
      simp only [atop, setSlot]
      by_cases earlier : ordinal ∈ used.declared
      · by_cases since : ordinal ∈ fresh.declared <;> simp [earlier, since]
      · by_cases since : ordinal ∈ fresh.declared <;> simp [earlier, since]

variable {codec : Codec} {count : Nat}

/-- Bindings do to a list that is laid over another what they do to the list. -/
theorem edited_atop (consistent : fresh.Consistent codec count) (same : used.slots.length = count)
    (bindings : List Binding) :
    (fresh.atop used).edited (bindings.map Binding.edit) =
      (fresh.edited (bindings.map Binding.edit)).atop used := by
  induction bindings generalizing fresh with
  | nil => rfl
  | cons binding rest ih =>
    have changed := change_atop (same.trans consistent.length_eq.symm) binding
    have later := ih (consistent.change binding.edit)
    rw [← changed] at later
    exact later

/-- Bindings of a list that was used and cleared give what they give of a fresh list, laid over the
used one. -/
theorem edited_clear (consistent : used.Consistent codec count) (bindings : List Binding) :
    used.clear.edited (bindings.map Binding.edit) =
      ((ofCount count codec).edited (bindings.map Binding.edit)).atop used := by
  have slots : used.slots.map Slot.clear =
      List.zipWith Slot.atop (List.replicate count default) used.slots := by
    apply List.ext_getElem
    · simp [consistent.length_eq]
    · intro position inside _
      simp [Slot.clear_eq_atop]
  have cleared : used.clear = (ofCount count codec).atop used := by
    simp only [clear, atop, ofCount, slots, consistent.codec_eq, List.filter_nil, List.append_nil]
  rw [cleared]
  exact edited_atop (consistent_ofCount count codec) consistent.length_eq bindings

/-- Replacing a parameter replaces the one with its ordinal and no other. -/
theorem slots_setSlot {list : ParameterList} {ordinal position : Nat} {slot next : Slot}
    (found : (list.setSlot ordinal slot).slots[position]? = some next) :
    (ordinal - 1 = position ∧ next = slot) ∨
      (ordinal - 1 ≠ position ∧ list.slots[position]? = some next) := by
  simp only [setSlot, List.getElem?_set] at found
  by_cases here : ordinal - 1 = position
  · rw [if_pos here] at found
    split at found
    · cases found
      exact .inl ⟨here, rfl⟩
    · cases found
  · rw [if_neg here] at found
    exact .inr ⟨here, found⟩

/-- Whether the parameter at a place, if there is one, is typed by a declaration. -/
def TypedAt (position : Nat) (declared : Option SqlType) (list : ParameterList) : Prop :=
  ∀ slot, list.slots[position]? = some slot → slot.TypedBy declared

variable {list : ParameterList} {position : Nat} {declared : Option SqlType}

/-- Replacing a parameter by one that the declaration of its place types keeps all typed. -/
theorem TypedAt.setSlot (typed : list.TypedAt position declared) {ordinal : Nat} {slot : Slot}
    (own : ordinal - 1 = position → slot.TypedBy declared) :
    (list.setSlot ordinal slot).TypedAt position declared := by
  intro next found
  obtain ⟨here, rfl⟩ | ⟨_, kept⟩ := slots_setSlot found
  · exact own here
  · exact typed next kept

/-- Binding an argument leaves no parameter that had no input before without the type of its
declaration. -/
theorem TypedAt.bindValue (typed : list.TypedAt position declared) (ordinal : Nat)
    (type : WireType) (argument : Argument) :
    (Action.last (bindValue ordinal type argument list)).TypedAt position declared := by
  apply last_attempt typed
  intro changed done
  obtain ⟨slot, _, done⟩ := Action.except_bind_eq_ok.mp done
  obtain ⟨encoded, _, done⟩ := Action.except_bind_eq_ok.mp done
  cases done
  exact typed.setSlot fun _ => nofun

/-- Declaring an output gives the parameter the type of this declaration. -/
theorem TypedAt.bindOutput (typed : list.TypedAt position declared) (ordinal : Nat)
    (type : SqlType) :
    (Action.last (bindOutput ordinal type list)).TypedAt position
      (Binding.redeclare (position + 1) declared (.output ordinal type)) := by
  simp only [Binding.redeclare]
  split
  · rename_i same
    subst same
    intro next found
    cases here : list.slot (position + 1) with
    | error error =>
      simp only [ParameterList.bindOutput, attempt, bind, Except.bind, here] at found
      have there : list.slot (position + 1) = .ok next :=
        slot_eq_ok.mpr ⟨Nat.succ_ne_zero position, found⟩
      rw [here] at there
      cases there
    | ok slot =>
      simp only [ParameterList.bindOutput, attempt, bind, Except.bind, here] at found
      obtain ⟨_, rfl⟩ | ⟨other, _⟩ := slots_setSlot found
      · exact slot.typedBy_declare type
      · exact absurd rfl other
  · rename_i other
    apply last_attempt typed
    intro changed done
    obtain ⟨slot, found, done⟩ := Action.except_bind_eq_ok.mp done
    cases done
    refine typed.setSlot fun here => ?_
    have counted := (slot_eq_ok.mp found).1
    omega

/-- A binding leaves a parameter without input with the type of its last declaration. -/
theorem TypedAt.change (typed : list.TypedAt position declared) (binding : Binding) :
    (Action.last (binding.edit.change list)).TypedAt position
      (Binding.redeclare (position + 1) declared binding) := by
  cases binding with
  | value ordinal type argument => exact typed.bindValue ordinal type argument
  | null ordinal type => exact typed.bindValue ordinal type .null
  | output ordinal type => exact typed.bindOutput ordinal type

/-- Bindings leave a parameter without input with the type of its last declaration. -/
theorem TypedAt.edited (typed : list.TypedAt position declared) (bindings : List Binding) :
    (list.edited (bindings.map Binding.edit)).TypedAt position
      (bindings.foldl (Binding.redeclare (position + 1)) declared) := by
  induction bindings generalizing list declared with
  | nil => exact typed
  | cons binding rest ih => exact ih (typed.change binding)

/-- A fresh parameter has no type. -/
theorem typedAt_ofCount (count : Nat) (codec : Codec) (position : Nat) :
    (ofCount count codec).TypedAt position none := by
  intro slot found _
  rw [List.eq_of_mem_replicate (List.mem_of_getElem? found)]
  rfl

/-- A list that was used in any way and cleared, and a fresh list of as many parameters, after the
same bindings. Every parameter has the same argument, the same bytes and the same mark of being
bound in both. It has the same type, too, unless it had an input before the list was cleared and has
none since: then it has no type, where the parameter of the fresh list has the type of its last
declaration. -/
theorem reused_differs_in_output_types (count : Nat) (codec : Codec) (history : List Edit)
    (bindings : List Binding) :
    let used := (ofCount count codec).edited history
    let fresh := (ofCount count codec).edited (bindings.map Binding.edit)
    let reused := used.clear.edited (bindings.map Binding.edit)
    ∀ position < count, ∃ before first again,
      used.slots[position]? = some before ∧ fresh.slots[position]? = some first ∧
      reused.slots[position]? = some again ∧
      again.argument = first.argument ∧ again.encoded = first.encoded ∧
      again.bound = first.bound ∧
      again.type =
        (if before.direction.input ∧ first.direction.input = false then .unspecified
        else first.type) ∧
      (first.direction.input = false →
        first.type = (Binding.declared? (position + 1) bindings).elim .unspecified
          SqlType.wireType) := by
  intro used fresh reused position inside
  have sound := consistent_edited count codec history
  have new := consistent_edited count codec (bindings.map Binding.edit)
  have below : position < used.slots.length := sound.length_eq ▸ inside
  have above : position < fresh.slots.length := new.length_eq ▸ inside
  have laid : reused = fresh.atop used := edited_clear sound bindings
  have typed := (typedAt_ofCount count codec position).edited bindings
  refine ⟨used.slots[position], fresh.slots[position],
    fresh.slots[position].atop used.slots[position], List.getElem?_eq_getElem below,
    List.getElem?_eq_getElem above, ?_, rfl, rfl, rfl, ?_, ?_⟩
  · rw [laid, atop, List.getElem?_zipWith, List.getElem?_eq_getElem above,
      List.getElem?_eq_getElem below]
  · simp [Slot.atop]
  · exact typed _ (List.getElem?_eq_getElem above)

/-- An argument was bound, the list was cleared, and the parameter is declared an output: it has no
type, where the parameter of a fresh list has the type of the declaration. -/
theorem reused_output_without_type :
    let used := (ofCount 1 ⟨.little, .utf8⟩).edited [.bindValue 1 .integer (.int 7)]
    let edits := [Binding.output 1 .varchar].map Binding.edit
    (used.clear.edited edits).slots.map Slot.type = [.unspecified] ∧
      ((ofCount 1 ⟨.little, .utf8⟩).edited edits).slots.map Slot.type = [.text] := by
  decide

/-- The first of two parameters had an input before, the second gets one after its declaration. -/
theorem reused_differs_in_output_types_mixed :
    let used := (ofCount 2 ⟨.big, .utf8⟩).edited [.bindNull 1 .real, .bindOutput 2 .blob]
    let bindings : List Binding :=
      [.output 1 .bigInt, .output 2 .double, .value 2 .char (.text "x")]
    let fresh := (ofCount 2 ⟨.big, .utf8⟩).edited (bindings.map Binding.edit)
    let reused := used.clear.edited (bindings.map Binding.edit)
    0 < 2 ∧ ∃ before first again,
      used.slots[0]? = some before ∧ fresh.slots[0]? = some first ∧
      reused.slots[0]? = some again ∧ again.bound = first.bound ∧
      before.direction.input = true ∧ first.type = .bigint ∧ again.type = .unspecified := by
  intro used bindings fresh reused
  obtain ⟨before, first, again, old, new, found, _, _, bound, type, declared⟩ :=
    reused_differs_in_output_types 2 ⟨.big, .utf8⟩ [.bindNull 1 .real, .bindOutput 2 .blob] bindings
      0 (by decide)
  have input : before.direction.input = true := by
    cases old
    rfl
  have none : first.direction.input = false := by
    cases new
    rfl
  refine ⟨by decide, before, first, again, old, new, found, bound, input, declared none, ?_⟩
  rw [type, if_pos ⟨input, none⟩]

end ParameterList
end SqlWire
