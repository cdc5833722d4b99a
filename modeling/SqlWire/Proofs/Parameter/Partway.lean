import SqlWire.Proofs.Parameter.Marks

/-!
# Types that stop partway

Giving each argument the type that the server described goes from parameter to parameter, and stops
at the first whose argument has no bytes under its type. Unlike any other edit that fails, it leaves
the parameters in front with their new types (`refused_edit`).
-/
namespace SqlWire

/-- The parameter with the type that the server described. Without argument it keeps its own. -/
def Slot.retyped (codec : Codec) (slot : Slot) (type : WireType) : Except Error Slot :=
  if slot.direction.input ∧ slot.type ≠ type then do
    let encoded ← slot.argument.encode codec type
    .ok { slot with type, encoded }
  else .ok slot

/-- Parameters as they are when one does not take its type: those in front, as many as the place
says, took theirs, and the others are as they were. -/
inductive Partway (codec : Codec) (error : Error) :
    Nat → List WireType → List Slot → List Slot → Prop
  /-- The first parameter does not take its type. -/
  | here {type : WireType} {slot : Slot} (refused : slot.retyped codec type = .error error)
      (types : List WireType) (slots : List Slot) :
      Partway codec error 0 (type :: types) (slot :: slots) (slot :: slots)
  /-- The first parameter takes its type, and one behind it does not. -/
  | behind {type : WireType} {slot next : Slot} (taken : slot.retyped codec type = .ok next)
      {place : Nat} {types : List WireType} {slots after : List Slot}
      (rest : Partway codec error place types slots after) :
      Partway codec error (place + 1) (type :: types) (slot :: slots) (next :: after)

namespace Slot

variable {codec : Codec} {slot : Slot} {type : WireType}

/-- A parameter stays as it is when it has no argument or has its type already. -/
theorem retyped_eq_self :
    slot.retyped codec type = .ok slot ↔ (slot.direction.input = true → slot.type = type) := by
  unfold retyped
  split
  · rename_i other
    refine ⟨fun done => ?_, fun same => absurd (same other.1) other.2⟩
    obtain ⟨encoded, _, done⟩ := Action.except_bind_eq_ok.mp done
    have same : ({ slot with type, encoded } : Slot) = slot := Except.ok.inj done
    exact absurd (congrArg Slot.type same).symm other.2
  · rename_i fitting
    exact ⟨fun _ input => Decidable.not_not.mp fun other => fitting ⟨input, other⟩, fun _ => rfl⟩

end Slot

namespace Partway

variable {codec : Codec} {error : Error} {place : Nat} {type : WireType} {types : List WireType}
  {slot : Slot} {slots after : List Slot}

/-- Without types all parameters are done. -/
theorem not_nil_left : ¬ Partway codec error place [] slots after := nofun

/-- Without parameters all are done. -/
theorem not_nil_right : ¬ Partway codec error place types [] after := nofun

/-- Where the first parameter does not take its type, all parameters are as they were. -/
theorem exists_cons_of_error {refusal : Error} (refused : slot.retyped codec type = .error refusal)
    {motive : List Slot → Prop} :
    (∃ place after, Partway codec error place (type :: types) (slot :: slots) after ∧
      motive after) ↔ refusal = error ∧ motive (slot :: slots) := by
  constructor
  · rintro ⟨_, _, again | ⟨taken, _⟩, holds⟩
    · exact ⟨Except.error.inj (refused.symm.trans again), holds⟩
    · cases refused.symm.trans taken
  · rintro ⟨rfl, holds⟩
    exact ⟨0, _, .here refused types slots, holds⟩

/-- Where the first parameter takes its type, it is one behind it that does not. -/
theorem exists_cons_of_ok {next : Slot} (taken : slot.retyped codec type = .ok next)
    {motive : List Slot → Prop} :
    (∃ place after, Partway codec error place (type :: types) (slot :: slots) after ∧
      motive after) ↔
      ∃ place after, Partway codec error place types slots after ∧ motive (next :: after) := by
  constructor
  · rintro ⟨_, _, refused | ⟨again, rest⟩, holds⟩
    · cases taken.symm.trans refused
    · cases taken.symm.trans again
      exact ⟨_, _, rest, holds⟩
  · rintro ⟨place, after, rest, holds⟩
    exact ⟨place + 1, _, .behind taken rest, holds⟩

/-- All parameters are as they were when those in front had their types already. -/
theorem eq_iff (partway : Partway codec error place types slots after) :
    after = slots ↔ ∀ earlier < place, ∀ slot type, slots[earlier]? = some slot →
      types[earlier]? = some type → slot.direction.input = true → slot.type = type := by
  induction partway with
  | here refused types slots => simp
  | @behind type slot next taken place types slots after rest ih =>
    rw [List.cons.injEq, ih, Nat.forall_lt_succ_left]
    simp only [List.getElem?_cons_zero, List.getElem?_cons_succ, Option.some.injEq]
    refine and_congr_left fun _ => ?_
    constructor
    · rintro rfl _ _ rfl rfl
      exact Slot.retyped_eq_self.mp taken
    · intro fitting
      have same : slot.retyped codec type = .ok slot :=
        Slot.retyped_eq_self.mpr (fitting slot type rfl rfl)
      exact Except.ok.inj (taken.symm.trans same)

end Partway

namespace ParameterList

variable {list : ParameterList}

/-- Giving the next parameter its type, when those in front are done. -/
theorem retype_next (list : ParameterList) (done rest : List Slot) {slot : Slot} {type : WireType}
    (other : slot.direction.input ∧ slot.type ≠ type) :
    retype (done.length + 1) type { list with slots := done ++ slot :: rest } =
      match slot.retyped list.codec type with
      | .error error => .error error { list with slots := done ++ slot :: rest }
      | .ok next => .ok () { list with slots := done ++ next :: rest } := by
  have found : ({ list with slots := done ++ slot :: rest } : ParameterList).slot
      (done.length + 1) = .ok slot := slot_eq_ok.mpr ⟨Nat.succ_ne_zero _, by simp⟩
  simp only [retype, attempt, found, Slot.retyped, if_pos other, bind, Except.bind]
  cases slot.argument.encode list.codec type with
  | error error => rfl
  | ok encoded => simp [setSlot]

/-- Giving types from the next parameter on, when those in front are done. -/
theorem applyTypesFrom_cons (done rest : List Slot) (slot : Slot) (type : WireType)
    (types : List WireType) :
    applyTypesFrom (done.length + 1) (type :: types) { list with slots := done ++ slot :: rest } =
      match slot.retyped list.codec type with
      | .error error => .error error { list with slots := done ++ slot :: rest }
      | .ok next =>
        applyTypesFrom (done.length + 2) types { list with slots := done ++ next :: rest } := by
  have found : (done ++ slot :: rest)[done.length + 1 - 1]? = some slot := by simp
  rw [applyTypesFrom, Action.bind_of_ok (Action.get_apply _)]
  simp only [found]
  by_cases other : slot.direction.input ∧ slot.type ≠ type
  · have next := retype_next list done rest other
    rw [if_pos other]
    cases taken : slot.retyped list.codec type with
    | error error =>
      rw [taken] at next
      exact Action.bind_of_error next
    | ok changed =>
      rw [taken] at next
      exact Action.bind_of_ok next
  · rw [if_neg other, Slot.retyped, if_neg other]

/-- Giving types from the next parameter on, when those in front are done, fails when one does not
take its type. -/
theorem applyTypesFrom_eq_error (list : ParameterList) (done slots : List Slot)
    (types : List WireType) {error : Error} {after : ParameterList} :
    applyTypesFrom (done.length + 1) types { list with slots := done ++ slots } =
        .error error after ↔
      ∃ place changed, Partway list.codec error place types slots changed ∧
        after = { list with slots := done ++ changed } := by
  induction types generalizing done slots with
  | nil =>
    simp only [Partway.not_nil_left, false_and, exists_false, iff_false]
    exact nofun
  | cons type types ih =>
    cases slots with
    | nil =>
      have beyond : (done ++ [])[done.length + 1 - 1]? = (none : Option Slot) := by simp
      rw [applyTypesFrom, Action.bind_of_ok (Action.get_apply _)]
      simp only [beyond, Partway.not_nil_right, false_and, exists_false, iff_false]
      exact nofun
    | cons slot slots =>
      rw [applyTypesFrom_cons]
      cases taken : slot.retyped list.codec type with
      | error refusal =>
        rw [Partway.exists_cons_of_error taken]
        simp [eq_comm]
      | ok next =>
        rw [Partway.exists_cons_of_ok taken]
        simpa using ih (done ++ [next]) slots

/-- An edit that fails leaves a list as it was. But giving types to all parameters leaves those in
front of the refused one with theirs, so that the list is as it was only when these had them. -/
theorem refused_edit (list : ParameterList) :
    (∀ (edit : Edit) error after, (∀ types, edit ≠ .applyTypes types) →
      edit.change list = .error error after → after = list) ∧
    ∀ types error after, applyTypes types list = .error error after ↔
      ∃ place slots, Partway list.codec error place types list.slots slots ∧
        after = { list with slots } ∧
        (after = list ↔ ∀ earlier < place, ∀ slot type, list.slots[earlier]? = some slot →
          types[earlier]? = some type → slot.direction.input = true → slot.type = type) := by
  refine ⟨fun edit error after => eq_of_change_eq_error, fun types error after => ?_⟩
  constructor
  · intro failed
    obtain ⟨place, slots, partway, rfl⟩ :=
      (applyTypesFrom_eq_error list [] list.slots types).mp failed
    refine ⟨place, slots, partway, rfl, ?_⟩
    rw [← partway.eq_iff]
    exact ⟨congrArg ParameterList.slots, fun same => same ▸ rfl⟩
  · rintro ⟨place, slots, partway, rfl, _⟩
    exact (applyTypesFrom_eq_error list [] list.slots types).mpr ⟨place, slots, partway, rfl⟩

/-- Two arguments are bound, and the type that the server described does not fit the second one: the
first one has its new type. -/
theorem refused_types_partway :
    let list := (ofCount 2 ⟨.little, .utf8⟩).edited
      [.bindValue 1 .integer (.int 7), .bindValue 2 .varbinary (.bytes [1])]
    ∃ after, applyTypes [.bigint, .integer] list =
        .error (.type (.cannotBind (.bytes [1]) .integer)) after ∧
      list.slots.map Slot.type = [.integer, .varbinary] ∧
      after.slots.map Slot.type = [.bigint, .varbinary] ∧ after ≠ list :=
  ⟨_, rfl, by decide, by decide, by decide⟩

end ParameterList
end SqlWire
