import FormEditor.Editor.Records
import FormEditor.Proofs.Form.Validation
import FormEditor.Proofs.Record.Store

/-! What the uses of the records and of the entry do, in cases. Each case has the conditions under which it comes
about, what is reported then, and the editor that is left. Everything else about these operations is read off
from their cases. -/

namespace FormEditor.Editor

/-- What it does to enter a value for a field. -/
inductive Enters [PatternEngine] (editor : Editor) (fieldId : String) (value : Json) :
    Option Action × Editor → Prop where
  | ignored (hmissing : editor.mode.isEntry = false ∨ editor.form.findField fieldId = none) :
      Enters editor fieldId value (none, editor)
  | entered {field : InputField} (hmode : editor.mode.isEntry = true)
      (hfield : editor.form.findField fieldId = some field) :
      Enters editor fieldId value
        (some (.entryChanged fieldId), { editor with entry := editor.entry.setValue field value })

/-- What it does to submit the entry. -/
inductive Submits [PatternEngine] (editor : Editor) (now : Time) : List Action × Editor → Prop where
  | ignored (hmode : editor.mode.isEntry = false) : Submits editor now ([], editor)
  | refused (hmode : editor.mode.isEntry = true)
      (herrors : (editor.entry.validateAll editor.form).hasErrors = true) :
      Submits editor now ([.validationFailed (editor.entry.validateAll editor.form).errors.size],
        { editor with entry := editor.entry.validateAll editor.form })
  | added (hmode : editor.mode = .add) (hvalid : (editor.entry.validateAll editor.form).hasErrors = false) :
      Submits editor now ([.recordSubmitted (editor.records.insert editor.entry.values).1],
        { editor with records := (editor.records.insert editor.entry.values).2, entry := .blank })
  | lost (hmode : editor.mode = .update) (hvalid : (editor.entry.validateAll editor.form).hasErrors = false)
      (hlost : ∀ id, editor.records.selectedId = some id → id ∉ editor.records.ids) :
      Submits editor now ([], { editor with entry := editor.entry.validateAll editor.form })
  | updated {id : RecordId} {store : RecordStore} (hmode : editor.mode = .update)
      (hvalid : (editor.entry.validateAll editor.form).hasErrors = false)
      (hselected : editor.records.selectedId = some id)
      (hupdate : editor.records.update id editor.entry.values = .ok store) :
      Submits editor now ([.recordUpdated id],
        { editor with entry := editor.entry.validateAll editor.form, records := store }.publishRecord now)

/-- What it does to open a record in a mode. -/
inductive Opens (editor : Editor) (id : RecordId) (mode : ViewMode) (now : Time) : List Action × Editor → Prop where
  | missing (hmissing : editor.records.get? id = none) : Opens editor id mode now ([], editor)
  | again {record : Record} {store : RecordStore} (hselect : editor.records.select id = .ok (record, store))
      (hselected : editor.records.selectedId = some id) :
      Opens editor id mode now ([.recordSelected id, .modeChanged mode],
        (({ editor with records := store }.publishRecord now).setMode mode).2)
  | switched {record : Record} {store : RecordStore} (hselect : editor.records.select id = .ok (record, store))
      (hother : editor.records.selectedId ≠ some id) :
      Opens editor id mode now
        ({ editor with records := store }.switchRecordText.1 ++ [.recordSelected id, .modeChanged mode],
          ({ editor with records := store }.switchRecordText.2.setMode mode).2)

/-- What it does to delete a record. -/
inductive Removes (editor : Editor) (id : RecordId) : List Action × Editor → Prop where
  | missing (hmissing : editor.records.delete id = none) : Removes editor id ([], editor)
  | closed {record : Record} {store : RecordStore} (hdelete : editor.records.delete id = some (record, store))
      (hselected : editor.records.selectedId = some id) (hmode : editor.mode.needsRecord = true) :
      Removes editor id
        ([.recordDeleted id, .modeChanged .list], ({ editor with records := store }.setMode .list).2)
  | removed {record : Record} {store : RecordStore} (hdelete : editor.records.delete id = some (record, store))
      (hopen : ¬(editor.records.selectedId = some id ∧ editor.mode.needsRecord)) :
      Removes editor id ([.recordDeleted id], { editor with records := store })

variable (editor : Editor)

theorem publishRecord_eq (now : Time) :
    ∃ recordBridge, editor.publishRecord now = { editor with recordBridge } := by
  unfold publishRecord
  split
  · exact ⟨_, rfl⟩
  · exact ⟨editor.recordBridge, rfl⟩

@[simp] theorem entry_publishRecord (now : Time) : (editor.publishRecord now).entry = editor.entry := by
  obtain ⟨bridge, hnext⟩ := editor.publishRecord_eq now
  rw [hnext]

@[simp] theorem records_publishRecord (now : Time) : (editor.publishRecord now).records = editor.records := by
  obtain ⟨bridge, hnext⟩ := editor.publishRecord_eq now
  rw [hnext]

@[simp] theorem mode_publishRecord (now : Time) : (editor.publishRecord now).mode = editor.mode := by
  obtain ⟨bridge, hnext⟩ := editor.publishRecord_eq now
  rw [hnext]

theorem enters_setFieldValue [PatternEngine] (fieldId : String) (value : Json) :
    editor.Enters fieldId value (editor.setFieldValue fieldId value) := by
  unfold setFieldValue
  split
  · rename_i field hmode hfield
    exact .entered hmode hfield
  · rename_i hother
    refine .ignored ?_
    cases hmode : editor.mode.isEntry with
    | false => exact Or.inl rfl
    | true => exact Or.inr (Option.eq_none_iff_forall_ne_some.mpr fun field hfield => hother field hmode hfield)

theorem submits_submit [PatternEngine] (now : Time) : editor.Submits now (editor.submit now) := by
  unfold submit
  split
  · rename_i hentry
    simp only
    split
    · rename_i herrors
      exact .refused hentry herrors
    · rename_i hvalid
      have hvalid : (editor.entry.validateAll editor.form).hasErrors = false := Bool.eq_false_iff.mpr hvalid
      split
      · rename_i hmode
        simp only [addRecord, Entry.values_validateAll]
        exact .added hmode hvalid
      · rename_i hother
        have hmode : editor.mode = .update := by
          cases hmode : editor.mode <;> simp_all [ViewMode.isEntry]
        simp only [updateRecord, Entry.values_validateAll]
        split
        · rename_i hnone
          exact .lost hmode hvalid fun id hselected => absurd (hnone.symm.trans hselected) nofun
        · rename_i id hselected
          split
          · rename_i store hupdate
            exact .updated hmode hvalid hselected hupdate
          · -- an update fails only if no record has the id
            rename_i cause hupdate
            refine .lost hmode hvalid fun other hother hmem => ?_
            cases hselected.symm.trans hother
            obtain ⟨store, hstored⟩ := RecordStore.update_of_mem hmem editor.entry.values
            cases hupdate.symm.trans hstored
  · rename_i hentry
    exact .ignored (Bool.eq_false_iff.mpr hentry)

theorem opens_openRecord (id : RecordId) (mode : ViewMode) (now : Time) :
    editor.Opens id mode now (editor.openRecord id mode now) := by
  unfold openRecord
  split
  · rename_i cause hselect
    refine .missing ?_
    unfold RecordStore.select at hselect
    split at hselect
    · cases hselect
    · rename_i hmissing
      exact hmissing
  · rename_i record store hselect
    simp only
    split
    · rename_i hselected
      exact .again hselect hselected
    · rename_i hother
      exact .switched hselect hother

theorem removes_deleteRecord (id : RecordId) : editor.Removes id (editor.deleteRecord id) := by
  unfold deleteRecord
  split
  · rename_i hmissing
    exact .missing hmissing
  · rename_i record store hdelete
    simp only
    split
    · rename_i hboth
      exact .closed hdelete hboth.1 hboth.2
    · rename_i hopen
      exact .removed hdelete hopen

end FormEditor.Editor
