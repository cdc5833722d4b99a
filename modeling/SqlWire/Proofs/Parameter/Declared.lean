import SqlWire.Proofs.Parameter.History

/-!
# Declared outputs

An output that is declared again is not noted again, and nothing else touches the ordinals that were
noted. So whatever was done to a list of parameters, the ordinals of its outputs differ
(`nodup_outputs_edited`).
-/
namespace SqlWire.ParameterList

variable {list : ParameterList}

/-- Binding an argument declares nothing. -/
theorem declared_bindValue (ordinal : Nat) (type : WireType) (argument : Argument) :
    (Action.last (bindValue ordinal type argument list)).declared = list.declared := by
  apply last_attempt (motive := fun after => after.declared = list.declared) rfl
  intro next done
  obtain ⟨slot, _, done⟩ := Action.except_bind_eq_ok.mp done
  obtain ⟨encoded, _, done⟩ := Action.except_bind_eq_ok.mp done
  cases done
  rfl

/-- Giving a parameter another type declares nothing. -/
theorem declared_retype (ordinal : Nat) (type : WireType) :
    (Action.last (retype ordinal type list)).declared = list.declared := by
  apply last_attempt (motive := fun after => after.declared = list.declared) rfl
  intro next done
  obtain ⟨slot, _, done⟩ := Action.except_bind_eq_ok.mp done
  obtain ⟨encoded, _, done⟩ := Action.except_bind_eq_ok.mp done
  cases done
  rfl

/-- Giving each argument the type that the server described declares nothing. -/
theorem declared_applyTypesFrom (ordinal : Nat) (types : List WireType) :
    (Action.last (applyTypesFrom ordinal types list)).declared = list.declared := by
  apply last_applyTypesFrom (motive := fun after => after.declared = list.declared) _ rfl
  intro middle ordinal type kept
  exact (declared_retype ordinal type).trans kept

/-- Declaring an output notes its ordinal once. -/
theorem nodup_bindOutput (distinct : list.declared.Nodup) (ordinal : Nat) (type : SqlType) :
    (Action.last (bindOutput ordinal type list)).declared.Nodup := by
  apply last_attempt (motive := fun after => after.declared.Nodup) distinct
  intro next done
  obtain ⟨slot, _, done⟩ := Action.except_bind_eq_ok.mp done
  cases done
  dsimp only
  split
  · exact distinct
  · rename_i new
    rw [List.nodup_append]
    refine ⟨distinct, List.pairwise_singleton _ ordinal, ?_⟩
    rintro noted member _ last rfl
    exact new (List.mem_singleton.mp last ▸ member)

/-- Any edit notes every ordinal once. -/
theorem nodup_change (distinct : list.declared.Nodup) (edit : Edit) :
    (Action.last (edit.change list)).declared.Nodup := by
  cases edit with
  | bindValue ordinal type argument => rwa [Edit.change, declared_bindValue]
  | bindNull ordinal type => rwa [Edit.change, bindNull, declared_bindValue]
  | bindOutput ordinal type => exact nodup_bindOutput distinct ordinal type
  | retype ordinal type => rwa [Edit.change, declared_retype]
  | applyTypes types => rwa [Edit.change, applyTypes, declared_applyTypesFrom]
  | clear => exact distinct

/-- Any edits note every ordinal once. -/
theorem nodup_declared_edited (distinct : list.declared.Nodup) (edits : List Edit) :
    (list.edited edits).declared.Nodup :=
  edited_of_change (motive := fun list => list.declared.Nodup)
    (fun _ edit distinct => nodup_change distinct edit) distinct edits

/-- Whatever was done to a list of parameters, the ordinals of its outputs differ. -/
theorem nodup_outputs_edited (count : Nat) (codec : Codec) (edits : List Edit) :
    ((ofCount count codec).edited edits).outputs.Nodup := by
  have distinct : (ofCount count codec).declared.Nodup := List.nodup_nil
  exact (List.mergeSort_perm _ _).nodup_iff.mpr (nodup_declared_edited distinct edits)

end SqlWire.ParameterList
