import SqlWire.Proofs.Parameter.Partway

/-!
# Types given one after the other

A parameter that has its type already is passed over when types are given to all parameters. That
makes no difference, because the bytes of a parameter always are those of its argument under its
type: whatever types it had before, it ends up with the last one and the bytes that its argument has
under that, as if it had been bound so (`last_types_win`).
-/
namespace SqlWire

namespace Slot

variable {codec : Codec} {slot next : Slot} {type : WireType}

/-- A parameter whose bytes are up to date takes a type as if it were never passed over: with
argument it has the bytes made anew, and without it stays as it is. -/
theorem Consistent.retyped_eq (consistent : slot.Consistent codec) (type : WireType) :
    slot.retyped codec type =
      if slot.direction.input then
        (slot.argument.encode codec type).map fun encoded => { slot with type, encoded }
      else .ok slot := by
  cases input : slot.direction.input with
  | false => simp [retyped, input]
  | true =>
    by_cases same : slot.type = type
    · subst same
      simp [retyped, consistent.encode_eq, Except.map]
    · rw [retyped, if_pos ⟨input, same⟩, if_pos rfl]
      cases slot.argument.encode codec type <;> rfl

/-- A parameter that takes a type keeps everything but its type and its bytes, and without argument
these too. -/
theorem eq_of_retyped (taken : slot.retyped codec type = .ok next) :
    next = { slot with type := next.type, encoded := next.encoded } ∧
      (slot.direction.input = false → next = slot) := by
  unfold retyped at taken
  split at taken
  · rename_i other
    obtain ⟨encoded, _, done⟩ := Action.except_bind_eq_ok.mp taken
    cases done
    refine ⟨rfl, fun absent => ?_⟩
    cases absent.symm.trans other.1
  · cases taken
    exact ⟨rfl, fun _ => rfl⟩

/-- A parameter that takes a type is up to date if it was before. -/
theorem Consistent.of_retyped (consistent : slot.Consistent codec)
    (taken : slot.retyped codec type = .ok next) : next.Consistent codec := by
  unfold Slot.retyped at taken
  split at taken
  · obtain ⟨encoded, made, done⟩ := Action.except_bind_eq_ok.mp taken
    cases done
    exact consistent.retype made
  · cases taken
    exact consistent

/-- A parameter takes a type with the same result whether or not it took another one before. -/
theorem Consistent.retyped_retyped (consistent : slot.Consistent codec)
    (taken : slot.retyped codec type = .ok next) (last : WireType) :
    next.retyped codec last = slot.retyped codec last := by
  have between := consistent.of_retyped taken
  rw [consistent.retyped_eq] at taken
  rw [between.retyped_eq, consistent.retyped_eq]
  cases input : slot.direction.input with
  | false =>
    rw [if_neg (by simp [input])] at taken
    cases taken
    simp [input]
  | true =>
    rw [if_pos input] at taken
    cases made : slot.argument.encode codec type with
    | error error =>
      rw [made] at taken
      cases taken
    | ok encoded =>
      rw [made] at taken
      cases taken
      simp only [input, ↓reduceIte]

end Slot

/-- Parameters before and after each took its type. Where there are fewer types than parameters, the
other parameters stay as they are. -/
inductive Throughout (codec : Codec) : List WireType → List Slot → List Slot → Prop
  /-- No type is left. -/
  | untyped (slots : List Slot) : Throughout codec [] slots slots
  /-- No parameter is left. -/
  | beyond (type : WireType) (types : List WireType) : Throughout codec (type :: types) [] []
  /-- The first parameter takes its type, and so do those behind it. -/
  | taken {type : WireType} {slot next : Slot} (first : slot.retyped codec type = .ok next)
      {types : List WireType} {slots after : List Slot}
      (rest : Throughout codec types slots after) :
      Throughout codec (type :: types) (slot :: slots) (next :: after)

/-- Parameters before and after types were given to them, whether or not all took theirs. -/
structure Framed (types : List WireType) (slots after : List Slot) : Prop where
  /-- No parameter comes or goes. -/
  length_eq : after.length = slots.length
  /-- Only type and bytes of a parameter change. -/
  kept : ∀ (place : Nat) slot next, slots[place]? = some slot → after[place]? = some next →
    next = { slot with type := next.type, encoded := next.encoded }
  /-- Not even these change without argument or beyond the types. -/
  untouched : ∀ (place : Nat) slot, slots[place]? = some slot →
    slot.direction.input = false ∨ types.length ≤ place → after[place]? = some slot

namespace Framed

variable {types : List WireType} {slots after : List Slot}

/-- Parameters that stay as they are. -/
theorem refl (types : List WireType) (slots : List Slot) : Framed types slots slots where
  length_eq := rfl
  kept place slot next before later := by
    cases before.symm.trans later
    rfl
  untouched _ _ before _ := before

/-- A parameter that takes its type in front of others. -/
theorem cons {codec : Codec} {type : WireType} {slot next : Slot}
    (first : slot.retyped codec type = .ok next) (rest : Framed types slots after) :
    Framed (type :: types) (slot :: slots) (next :: after) where
  length_eq := congrArg (· + 1) rest.length_eq
  kept place before later found there := by
    cases place with
    | zero =>
      cases found
      cases there
      exact (Slot.eq_of_retyped first).1
    | succ place => exact rest.kept place before later found there
  untouched place before found alone := by
    cases place with
    | zero =>
      cases found
      have absent : slot.direction.input = false := alone.resolve_right (by simp)
      rw [List.getElem?_cons_zero, (Slot.eq_of_retyped first).2 absent]
    | succ place =>
      exact rest.untouched place before found (alone.imp_right Nat.le_of_succ_le_succ)

end Framed

/-- Parameters of which one does not take its type. -/
theorem Partway.framed {codec : Codec} {error : Error} {place : Nat} {types : List WireType}
    {slots after : List Slot} (partway : Partway codec error place types slots after) :
    Framed types slots after := by
  induction partway with
  | here refused types slots => exact .refl _ _
  | behind taken _ ih => exact ih.cons taken

namespace Throughout

variable {codec : Codec} {types : List WireType} {slots middle after : List Slot}

/-- Parameters that all take their types. -/
theorem framed (throughout : Throughout codec types slots after) : Framed types slots after := by
  induction throughout with
  | untyped slots => exact .refl _ _
  | beyond type types => exact .refl _ _
  | taken first _ ih => exact ih.cons first

/-- Each parameter takes the type at its place. -/
theorem retyped (throughout : Throughout codec types slots after) {place : Nat} {slot : Slot}
    {type : WireType} (found : slots[place]? = some slot) (given : types[place]? = some type) :
    ∃ next, slot.retyped codec type = .ok next ∧ after[place]? = some next := by
  induction throughout generalizing place with
  | untyped slots => simp at given
  | beyond type types => simp at found
  | @taken _ _ next first _ _ _ _ ih =>
    cases place with
    | zero =>
      cases found
      cases given
      exact ⟨next, first, rfl⟩
    | succ place => exact ih found given

/-- Parameters take types with the same result whether or not they took others before, when these
are no more than the types. -/
theorem again (throughout : Throughout codec types slots middle)
    (consistent : ∀ slot ∈ slots, slot.Consistent codec) {last : List WireType}
    (covered : types.length ≤ last.length) :
    Throughout codec last middle after ↔ Throughout codec last slots after := by
  induction throughout generalizing last after with
  | untyped slots => rfl
  | beyond type types => rfl
  | @taken _ slot next first _ slots middle _ ih =>
    have own : slot.Consistent codec := consistent slot List.mem_cons_self
    have others : ∀ slot ∈ slots, slot.Consistent codec := fun other member =>
      consistent other (List.mem_cons_of_mem _ member)
    -- A parameter that took a type takes one again, since the later types are no fewer.
    cases last with
    | nil => cases covered
    | cons type last =>
      have rest : ∀ {after},
          Throughout codec last middle after ↔ Throughout codec last slots after :=
        ih others (Nat.le_of_succ_le_succ covered)
      have same := own.retyped_retyped first type
      constructor
      · rintro (_ | _ | ⟨taken, behind⟩)
        exact .taken (same.symm.trans taken) (rest.mp behind)
      · rintro (_ | _ | ⟨taken, behind⟩)
        exact .taken (same.trans taken) (rest.mpr behind)

end Throughout

namespace ParameterList

variable {list after : ParameterList}

/-- Giving types from the next parameter on, when those in front are done, succeeds when each takes
its type. -/
theorem applyTypesFrom_eq_ok (list : ParameterList) (done slots : List Slot)
    (types : List WireType) {after : ParameterList} :
    applyTypesFrom (done.length + 1) types { list with slots := done ++ slots } = .ok () after ↔
      ∃ changed, Throughout list.codec types slots changed ∧
        after = { list with slots := done ++ changed } := by
  induction types generalizing done slots with
  | nil =>
    constructor
    · intro ended
      cases ended
      exact ⟨slots, .untyped slots, rfl⟩
    · rintro ⟨_, ⟨⟩, rfl⟩
      rfl
  | cons type types ih =>
    cases slots with
    | nil =>
      have absent : (done ++ [])[done.length + 1 - 1]? = (none : Option Slot) := by simp
      rw [applyTypesFrom, Action.bind_of_ok (Action.get_apply _)]
      simp only [absent]
      constructor
      · intro ended
        cases ended
        exact ⟨[], .beyond type types, rfl⟩
      · rintro ⟨_, ⟨⟩, rfl⟩
        rfl
    | cons slot slots =>
      rw [applyTypesFrom_cons]
      cases taken : slot.retyped list.codec type with
      | error refusal =>
        constructor
        · intro ended
          cases ended
        · rintro ⟨_, _ | _ | ⟨first, _⟩, _⟩
          cases taken.symm.trans first
      | ok next =>
        have rest := ih (done ++ [next]) slots
        simp only [List.length_append, List.length_singleton, List.append_assoc,
          List.singleton_append] at rest
        rw [rest]
        constructor
        · rintro ⟨changed, throughout, rfl⟩
          exact ⟨next :: changed, .taken taken throughout, rfl⟩
        · rintro ⟨_, _ | _ | ⟨first, throughout⟩, rfl⟩
          cases taken.symm.trans first
          exact ⟨_, throughout, rfl⟩

/-- Giving types to all parameters succeeds when each takes its type. -/
theorem applyTypes_eq_ok {types : List WireType} :
    applyTypes types list = .ok () after ↔
      ∃ slots, Throughout list.codec types list.slots slots ∧ after = { list with slots } :=
  applyTypesFrom_eq_ok list [] list.slots types

/-- Giving types to all parameters, whether or not it succeeds, changes at most the types and bytes
of those with argument that a type is given to. -/
theorem framed_applyTypes (list : ParameterList) (types : List WireType) :
    let after := Action.last (applyTypes types list)
    after = { list with slots := after.slots } ∧ Framed types list.slots after.slots := by
  cases ended : applyTypes types list with
  | ok done after =>
    obtain ⟨slots, throughout, rfl⟩ := applyTypes_eq_ok.mp ended
    exact ⟨rfl, throughout.framed⟩
  | error error after =>
    obtain ⟨place, slots, partway, rfl⟩ :=
      (applyTypesFrom_eq_error list [] list.slots types).mp ended
    exact ⟨rfl, partway.framed⟩

/-- A parameter is given another type when it is there and its argument has bytes under that. -/
theorem retype_eq_ok {ordinal : Nat} {type : WireType} :
    retype ordinal type list = .ok () after ↔
      ∃ slot encoded, list.slot ordinal = .ok slot ∧
        slot.argument.encode list.codec type = .ok encoded ∧
        list.setSlot ordinal { slot with type, encoded } = after := by
  simp only [retype, attempt_eq_ok, Action.except_bind_eq_ok, Except.ok.injEq]
  constructor
  · rintro ⟨slot, found, encoded, made, same⟩
    exact ⟨slot, encoded, found, made, same⟩
  · rintro ⟨slot, encoded, found, made, same⟩
    exact ⟨slot, found, encoded, made, same⟩

/-- A parameter that was replaced is found in its place. -/
theorem slot_setSlot {ordinal : Nat} {slot : Slot} (found : list.slot ordinal = .ok slot)
    (next : Slot) : (list.setSlot ordinal next).slot ordinal = .ok next := by
  obtain ⟨counted, there⟩ := slot_eq_ok.mp found
  obtain ⟨inside, _⟩ := List.getElem?_eq_some_iff.mp there
  exact slot_eq_ok.mpr ⟨counted, List.getElem?_set_self inside⟩

/-- Of two replacements of a parameter the second one counts. -/
theorem setSlot_setSlot (list : ParameterList) (ordinal : Nat) (first last : Slot) :
    (list.setSlot ordinal first).setSlot ordinal last = list.setSlot ordinal last := by
  simp only [setSlot, List.set_set]

/-- An argument that was bound under one type and then given another is bound under the other. -/
theorem retype_of_bindValue {ordinal : Nat} {former type : WireType} {argument : Argument}
    {bound direct : ParameterList} (under : bindValue ordinal former argument list = .ok () bound)
    (anew : bindValue ordinal type argument list = .ok () direct) :
    retype ordinal type bound = .ok () direct := by
  obtain ⟨slot, _, found, _, rfl⟩ := bindValue_eq_ok.mp under
  obtain ⟨_, encoded, again, made, rfl⟩ := bindValue_eq_ok.mp anew
  cases found.symm.trans again
  exact retype_eq_ok.mpr ⟨_, encoded, slot_setSlot found _, made, setSlot_setSlot list _ _ _⟩

/-- Parameters after any edits. To bind an argument under one type and then give it another is to
bind it under the other. To give types to all parameters and then others, at least as many, is to
give the others; to give the same ones again changes nothing. What giving types does is to make the
bytes of each argument anew under its type; and whether or not it succeeds it leaves everything else
alone. -/
theorem last_types_win (count : Nat) (codec : Codec) (edits : List Edit) :
    let list := (ofCount count codec).edited edits
    (∀ ordinal former type argument bound direct,
      bindValue ordinal former argument list = .ok () bound →
      bindValue ordinal type argument list = .ok () direct →
      retype ordinal type bound = .ok () direct) ∧
    (∀ first last typed after, first.length ≤ last.length →
      applyTypes first list = .ok () typed →
      (applyTypes last typed = .ok () after ↔ applyTypes last list = .ok () after)) ∧
    (∀ types after, applyTypes types list = .ok () after →
      applyTypes types after = .ok () after ∧
      ∀ (place : Nat) slot type, list.slots[place]? = some slot →
        slot.direction.input = true → types[place]? = some type →
        ∃ encoded, slot.argument.encode codec type = .ok encoded ∧
          after.slots[place]? = some { slot with type, encoded }) ∧
    ∀ types, let after := Action.last (applyTypes types list)
      after = { list with slots := after.slots } ∧ Framed types list.slots after.slots := by
  intro list
  have consistent : list.Consistent codec count := consistent_edited count codec edits
  have sound : ∀ slot ∈ list.slots, slot.Consistent list.codec := by
    rw [consistent.codec_eq]
    exact consistent.slots
  have again : ∀ first last typed after, first.length ≤ last.length →
      applyTypes first list = .ok () typed →
      (applyTypes last typed = .ok () after ↔ applyTypes last list = .ok () after) := by
    intro first last typed after covered done
    obtain ⟨slots, throughout, rfl⟩ := applyTypes_eq_ok.mp done
    simp only [applyTypes_eq_ok, throughout.again sound covered]
  refine ⟨?_, again, ?_, framed_applyTypes list⟩
  · intro ordinal former type argument bound direct
    exact retype_of_bindValue
  · intro types after done
    refine ⟨(again types types after after (Nat.le_refl _) done).mpr done, ?_⟩
    intro place slot type found input given
    obtain ⟨slots, throughout, rfl⟩ := applyTypes_eq_ok.mp done
    obtain ⟨next, taken, there⟩ := throughout.retyped found given
    have own := sound slot (List.mem_of_getElem? found)
    rw [own.retyped_eq, if_pos input, consistent.codec_eq] at taken
    cases made : slot.argument.encode codec type with
    | error error =>
      rw [made] at taken
      cases taken
    | ok encoded =>
      rw [made] at taken
      cases taken
      exact ⟨encoded, rfl, there⟩

/-- A text that is bound as such, and an output. The text takes the types INTEGER and BIGINT one
after the other and has the bytes of the last one, and the output keeps its type. -/
theorem last_types_win_text :
    let list := (ofCount 2 ⟨.big, .utf8⟩).edited
      [.bindValue 1 .varchar (.text "7"), .bindOutput 2 .integer]
    let typed := Action.last (applyTypes [.integer, .char] list)
    let after := Action.last (applyTypes [.bigint, .char] typed)
    applyTypes [.integer, .char] list = .ok () typed ∧
      applyTypes [.bigint, .char] list = .ok () after ∧
      after.slots.map Slot.type = [.bigint, .integer] ∧
      after.slots.map Slot.encoded = [[0, 0, 0, 0, 0, 0, 0, 7], []] := by
  intro list typed after
  have first : applyTypes [.integer, .char] list = .ok () typed := by rfl
  have second : applyTypes [.bigint, .char] typed = .ok () after := by rfl
  have direct := (last_types_win 2 ⟨.big, .utf8⟩ _).2.1 [.integer, .char] [.bigint, .char] typed
    after (Nat.le_refl 2) first
  exact ⟨first, direct.mp second, by decide, by decide⟩

end ParameterList
end SqlWire
