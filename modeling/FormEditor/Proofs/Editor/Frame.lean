import FormEditor.Proofs.Editor.Mirror

/-! What the uses of the records leave behind. They change the records, the entry and the bridge of the text of a
record, and may change the mode; the form, the bridge of its text and the drag they leave alone. Reading the
text of a record touches nothing but the records and the bridge of their text. -/

namespace FormEditor.Editor

/-- What a use of the records can leave behind, with or without a change of the mode. -/
inductive Uses (editor : Editor) : Editor → Prop where
  | same (records : RecordStore) (entry : Entry) (recordBridge : Bridge Record) :
      Uses editor { editor with records, entry, recordBridge }
  | switched (records : RecordStore) (recordBridge : Bridge Record) (mode : ViewMode) :
      Uses editor ({ editor with records, recordBridge }.setMode mode).2

theorem Uses.refl (editor : Editor) : editor.Uses editor :=
  .same editor.records editor.entry editor.recordBridge

theorem Uses.form {editor next : Editor} (huses : editor.Uses next) : next.form = editor.form := by
  cases huses <;> rfl

theorem Uses.formBridge {editor next : Editor} (huses : editor.Uses next) : next.formBridge = editor.formBridge := by
  cases huses <;> rfl

variable (editor : Editor)

theorem loadRecords_eq (records : List Record) (now : Time) :
    ∃ recordBridge, editor.loadRecords records now = { editor with records := .ofList records, recordBridge } :=
  { editor with records := .ofList records }.publishRecord_eq now

theorem records_pollForm (now : Time) : (editor.pollForm now).2.records = editor.records := by
  unfold pollForm
  split <;> rfl

/-- Reading the text of a record changes the records and the bridge of their text, and no more. -/
theorem pollRecord_eq (now : Time) :
    ∃ records recordBridge, (editor.pollRecord now).2 = { editor with records, recordBridge } := by
  rcases adoptOutcome_cases { editor with recordBridge := (editor.recordBridge.poll now).2 }
      (editor.recordBridge.poll now).1 with hnext | ⟨_, store, -, -, hnext⟩
  · exact ⟨editor.records, _, hnext⟩
  · exact ⟨store, _, hnext⟩

theorem switchRecordText_eq :
    ∃ records recordBridge, editor.switchRecordText.2 = { editor with records, recordBridge } := by
  obtain ⟨store, -, ⟨-, hnext⟩ | ⟨_, -, hnext⟩⟩ := editor.switchRecordText_cases
  · exact ⟨store, _, hnext⟩
  · exact ⟨store, _, hnext⟩

/-- Opening a record changes the records, the bridge of their text and the mode, or nothing at all. -/
theorem openRecord_eq (id : RecordId) (mode : ViewMode) (now : Time) :
    (editor.openRecord id mode now).2 = editor ∨ ∃ records recordBridge,
      (editor.openRecord id mode now).2 = ({ editor with records, recordBridge }.setMode mode).2 := by
  have hopens := editor.opens_openRecord id mode now
  generalize editor.openRecord id mode now = result at hopens ⊢
  cases hopens with
  | missing => exact Or.inl rfl
  | @again _ store =>
      obtain ⟨bridge, hnext⟩ := publishRecord_eq { editor with records := store } now
      rw [hnext]
      exact Or.inr ⟨store, bridge, rfl⟩
  | @switched _ store =>
      obtain ⟨records, bridge, hnext⟩ := switchRecordText_eq { editor with records := store }
      rw [hnext]
      exact Or.inr ⟨records, bridge, rfl⟩

theorem uses_openRecord (id : RecordId) (mode : ViewMode) (now : Time) :
    editor.Uses (editor.openRecord id mode now).2 := by
  rcases editor.openRecord_eq id mode now with hnext | ⟨records, bridge, hnext⟩
  · rw [hnext]
    exact .refl editor
  · rw [hnext]
    exact .switched records bridge mode

theorem uses_deleteRecord (id : RecordId) : editor.Uses (editor.deleteRecord id).2 := by
  have hremoves := editor.removes_deleteRecord id
  generalize editor.deleteRecord id = result at hremoves ⊢
  cases hremoves with
  | missing => exact .refl editor
  | closed => exact .switched _ editor.recordBridge .list
  | removed => exact .same _ editor.entry editor.recordBridge

theorem uses_pressButton (id : RecordId) (button : ListButton) (now : Time) :
    editor.Uses (editor.pressButton id button now).2 := by
  cases button with
  | view => exact uses_openRecord editor id .view now
  | update => exact uses_openRecord editor id .update now
  | delete => exact uses_deleteRecord editor id

theorem uses_loadRecords (records : List Record) (now : Time) : editor.Uses (editor.loadRecords records now) := by
  obtain ⟨bridge, hnext⟩ := editor.loadRecords_eq records now
  rw [hnext]
  exact .same (.ofList records) editor.entry bridge

theorem uses_setFieldValue [PatternEngine] (fieldId : String) (value : Json) :
    editor.Uses (editor.setFieldValue fieldId value).2 := by
  have henters := editor.enters_setFieldValue fieldId value
  generalize editor.setFieldValue fieldId value = result at henters ⊢
  cases henters with
  | ignored => exact .refl editor
  | entered => exact .same editor.records _ editor.recordBridge

theorem uses_submit [PatternEngine] (now : Time) : editor.Uses (editor.submit now).2 := by
  have hsubmits := editor.submits_submit now
  generalize editor.submit now = result at hsubmits ⊢
  cases hsubmits with
  | ignored => exact .refl editor
  | refused | lost => exact .same editor.records _ editor.recordBridge
  | added => exact .same _ .blank editor.recordBridge
  | @updated _ store =>
      obtain ⟨bridge, hnext⟩ := publishRecord_eq
        { editor with entry := editor.entry.validateAll editor.form, records := store } now
      rw [hnext]
      exact .same store _ bridge

/-- Every operation edits the form, uses the records, types into the text of the form or runs the bridges. -/
theorem perform_cases [PatternEngine] (operation : Operation) (now : Time) :
    editor.EditsForm now (editor.perform operation now).2 ∨
    editor.Uses (editor.perform operation now).2 ∨
    (∃ text, operation = .formTextChanged text) ∨ operation = .poll ∨ operation = .settle := by
  cases operation with
  | setMode mode => exact Or.inr (Or.inl (.switched editor.records editor.recordBridge mode))
  | pressButton id button => exact Or.inr (Or.inl (uses_pressButton editor id button now))
  | loadRecords records => exact Or.inr (Or.inl (uses_loadRecords editor records now))
  | setFieldValue fieldId value => exact Or.inr (Or.inl (uses_setFieldValue editor fieldId value))
  | submit => exact Or.inr (Or.inl (uses_submit editor now))
  | recordTextChanged text => exact Or.inr (Or.inl (.same editor.records editor.entry _))
  | formTextChanged text => exact Or.inr (Or.inr (Or.inl ⟨text, rfl⟩))
  | poll => exact Or.inr (Or.inr (Or.inr (Or.inl rfl)))
  | settle => exact Or.inr (Or.inr (Or.inr (Or.inr rfl)))
  | setPaletteSearch | dragStart | dragOver | dragLeave | dragEnd | drop | dropOnCanvas | deleteElement
  | duplicateElement | morphElement | moveRow | rename | openMenu | closeOverlay | chooseEntry | openDialog
  | changeDraft | changeDraftType | saveDialog | deleteFromDialog | cancelDialog =>
      exact Or.inl (editsForm_perform editor now rfl)

end FormEditor.Editor
