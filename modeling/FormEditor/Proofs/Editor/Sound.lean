import FormEditor.Proofs.Editor.Kinds
import FormEditor.Proofs.Record.RoundTrip

/-! What every run of the editor keeps sound: the form and the element in the dialog, and the values of
the records and of the entry. Nothing but a text or an operation brings in a form, an element or a value;
those that are read are sound, and so are those that the operations make. -/

namespace FormEditor

/-- The values that an operation brings in are free-form. -/
def Operation.IsFreeForm : Operation → Prop
  | .loadRecords records => ∀ record ∈ records, record.IsFreeForm
  | .setFieldValue _ value => value.IsFreeForm
  | _ => True

namespace Editor

variable {editor next : Editor} {now : Time}

/-! ### The form and the dialog -/

/-- The form is sound, and so is the element in the dialog. -/
structure HasSoundForm (editor : Editor) : Prop where
  form : editor.form.IsSound
  draft : editor.HasDraftOfItsKind

namespace HasSoundForm

theorem start {form : Form} (hform : form.IsSound) (config : EditorConfig) (ids : IdSupply) (now : Time) :
    (Editor.start form config ids now).HasSoundForm :=
  ⟨hform, .of_none rfl⟩

/-- Every step keeps the form and the dialog sound; a form that was typed is sound, since it was read. -/
theorem step (hsound : editor.HasSoundForm) {opened : Option Element} {drag : Drag} {actions : List Action}
    (hstep : editor.Step opened drag actions next) : next.HasSoundForm := by
  refine ⟨?_, hstep.layer.hasDraftOfItsKind (fun _ helement => hsound.form.elements helement) hsound.draft⟩
  rcases hstep.form with hchange | ⟨-, text, hread⟩
  · exact hchange.isSound hsound.form fun _ hopen => hsound.draft.draft? hopen
  · exact Form.isSound_of_ofText hread

/-- Every operation keeps the form and the dialog sound. -/
theorem perform [PatternEngine] (hsound : editor.HasSoundForm) (operation : Operation) (now : Time) :
    (editor.perform operation now).2.HasSoundForm :=
  hsound.step (editor.step_perform operation now)

theorem run [PatternEngine] (steps : List (Operation × Time)) :
    ∀ {editor : Editor}, editor.HasSoundForm → (editor.run steps).HasSoundForm := by
  induction steps with
  | nil => exact fun hsound => hsound
  | cons step steps ih => exact fun hsound => ih (hsound.perform step.1 step.2)

end HasSoundForm

/-! ### The values of the records and of the entry -/

/-- The values of the records and of the entry are free-form. -/
structure HasFreeFormValues (editor : Editor) : Prop where
  records : ∀ record ∈ editor.records.records, record.IsFreeForm
  entry : editor.entry.values.IsFreeForm

namespace HasFreeFormValues

theorem start (form : Form) (config : EditorConfig) (ids : IdSupply) (now : Time) :
    (Editor.start form config ids now).HasFreeFormValues :=
  ⟨fun _ hrecord => absurd hrecord List.not_mem_nil, Dictionary.isFreeForm_empty⟩

theorem of_editsForm (hfree : editor.HasFreeFormValues) (hedits : editor.EditsForm now next) :
    next.HasFreeFormValues := by
  refine ⟨?_, ?_⟩
  · rw [hedits.records]
    exact hfree.records
  · rw [hedits.entry]
    exact hfree.entry

theorem publishRecord (hfree : editor.HasFreeFormValues) (now : Time) :
    (editor.publishRecord now).HasFreeFormValues := by
  obtain ⟨bridge, hnext⟩ := editor.publishRecord_eq now
  rw [hnext]
  exact ⟨hfree.records, hfree.entry⟩

/-- The entry of a mode is blank, that of a record, or the one before. -/
theorem setMode (hfree : editor.HasFreeFormValues) (mode : ViewMode) :
    (editor.setMode mode).2.HasFreeFormValues := by
  refine ⟨hfree.records, ?_⟩
  change (editor.startEntry mode).values.IsFreeForm
  unfold startEntry
  split
  · exact Dictionary.isFreeForm_empty
  · cases hselected : editor.records.selected with
    | none => exact Dictionary.isFreeForm_empty
    | some record =>
        obtain ⟨id, -, hfound⟩ := Option.bind_eq_some_iff.mp hselected
        exact hfree.records record (List.mem_of_find?_eq_some hfound)
  · exact hfree.entry

theorem withUpdate (hfree : editor.HasFreeFormValues) {id : RecordId} {fields : Dictionary Json}
    (hfields : fields.IsFreeForm) {store : RecordStore} (hupdate : editor.records.update id fields = .ok store) :
    { editor with records := store }.HasFreeFormValues := by
  obtain ⟨-, rfl⟩ := RecordStore.update_eq_ok hupdate
  refine ⟨?_, hfree.entry⟩
  intro record hrecord
  rcases RecordStore.mem_replaceFields hrecord with hold | hnew
  · exact hfree.records record hold
  · rw [Record.IsFreeForm, hnew]
    exact hfields

/-- A record that was typed has free-form values, since it was read. -/
theorem adoptOutcome (hfree : editor.HasFreeFormValues) {outcome : SyncOutcome Record}
    (houtcome : ∀ record, outcome = .applied record → record.IsFreeForm) :
    (editor.adoptOutcome outcome).2.HasFreeFormValues := by
  rcases adoptOutcome_cases editor outcome with hnext | ⟨record, store, happlied, hreplace, hnext⟩
  · rw [hnext]
    exact hfree
  · rw [hnext]
    exact hfree.withUpdate (houtcome record happlied) hreplace

theorem poll (hfree : editor.HasFreeFormValues) (now : Time) : (editor.poll now).2.HasFreeFormValues := by
  have hform : (editor.pollForm now).2.HasFreeFormValues := by
    unfold Editor.pollForm
    split <;> exact ⟨hfree.records, hfree.entry⟩
  have hpolled : { (editor.pollForm now).2 with
      recordBridge := ((editor.pollForm now).2.recordBridge.poll now).2 }.HasFreeFormValues :=
    ⟨hform.records, hform.entry⟩
  refine hpolled.adoptOutcome ?_
  intro record happlied
  obtain ⟨text, hread⟩ := Bridge.exists_parse?_of_poll _ happlied
  exact Record.isFreeForm_of_ofText (toOption_eq_some_iff.mp hread)

theorem switchRecordText (hfree : editor.HasFreeFormValues) :
    editor.switchRecordText.2.HasFreeFormValues := by
  have hflushed : { editor with recordBridge := editor.recordBridge.flush.2 }.HasFreeFormValues :=
    ⟨hfree.records, hfree.entry⟩
  have hadopted := hflushed.adoptOutcome fun record happlied => by
    obtain ⟨text, hread⟩ := Bridge.exists_parse?_of_flush editor.recordBridge happlied
    exact Record.isFreeForm_of_ofText (toOption_eq_some_iff.mp hread)
  unfold Editor.switchRecordText
  simp only
  split
  · exact ⟨hadopted.records, hadopted.entry⟩
  · exact hadopted

theorem openRecord (hfree : editor.HasFreeFormValues) (id : RecordId) (mode : ViewMode) (now : Time) :
    (editor.openRecord id mode now).2.HasFreeFormValues := by
  have hchosen {record : Record} {store : RecordStore} (hselect : editor.records.select id = .ok (record, store)) :
      { editor with records := store }.HasFreeFormValues := by
    obtain ⟨-, rfl⟩ := RecordStore.select_eq_ok hselect
    exact ⟨hfree.records, hfree.entry⟩
  have hopens := editor.opens_openRecord id mode now
  generalize editor.openRecord id mode now = result at hopens ⊢
  cases hopens with
  | missing => exact hfree
  | again hselect => exact ((hchosen hselect).publishRecord now).setMode mode
  | switched hselect => exact (hchosen hselect).switchRecordText.setMode mode

theorem deleteRecord (hfree : editor.HasFreeFormValues) (id : RecordId) :
    (editor.deleteRecord id).2.HasFreeFormValues := by
  have hrest {record : Record} {store : RecordStore} (hdelete : editor.records.delete id = some (record, store)) :
      { editor with records := store }.HasFreeFormValues := by
    obtain ⟨_, -, hstore⟩ := Option.map_eq_some_iff.mp hdelete
    cases hstore
    exact ⟨fun record hrecord => hfree.records record (List.mem_of_mem_eraseP hrecord), hfree.entry⟩
  have hremoves := editor.removes_deleteRecord id
  generalize editor.deleteRecord id = result at hremoves ⊢
  cases hremoves with
  | missing => exact hfree
  | closed hdelete => exact (hrest hdelete).setMode .list
  | removed hdelete => exact hrest hdelete

theorem setFieldValue [PatternEngine] (hfree : editor.HasFreeFormValues) (fieldId : String) {value : Json}
    (hvalue : value.IsFreeForm) : (editor.setFieldValue fieldId value).2.HasFreeFormValues := by
  have henters := editor.enters_setFieldValue fieldId value
  generalize editor.setFieldValue fieldId value = result at henters ⊢
  cases henters with
  | ignored => exact hfree
  | entered => exact ⟨hfree.records, hfree.entry.insert _ hvalue⟩

theorem submit [PatternEngine] (hfree : editor.HasFreeFormValues) (now : Time) :
    (editor.submit now).2.HasFreeFormValues := by
  have hvalues : (editor.entry.validateAll editor.form).values.IsFreeForm := by
    rw [Entry.values_validateAll]
    exact hfree.entry
  have hvalidated : { editor with entry := editor.entry.validateAll editor.form }.HasFreeFormValues :=
    ⟨hfree.records, hvalues⟩
  have hsubmits := editor.submits_submit now
  generalize editor.submit now = result at hsubmits ⊢
  cases hsubmits with
  | ignored => exact hfree
  | refused | lost => exact hvalidated
  | added =>
      refine ⟨?_, Dictionary.isFreeForm_empty⟩
      intro record hrecord
      rcases List.mem_append.mp hrecord with hold | hnew
      · exact hfree.records record hold
      · cases List.mem_singleton.mp hnew
        exact hfree.entry
  | updated _ _ _ hupdate => exact (hvalidated.withUpdate hfree.entry hupdate).publishRecord now

/-- Every operation that brings in no other values keeps them free-form. -/
theorem perform [PatternEngine] (hfree : editor.HasFreeFormValues) {operation : Operation}
    (hbrings : operation.IsFreeForm) (now : Time) : (editor.perform operation now).2.HasFreeFormValues := by
  cases operation with
  | setMode mode => exact hfree.setMode mode
  | pressButton id button =>
      cases button with
      | view => exact hfree.openRecord id .view now
      | update => exact hfree.openRecord id .update now
      | delete => exact hfree.deleteRecord id
  | loadRecords records =>
      have hloaded : { editor with records := .ofList records }.HasFreeFormValues := ⟨hbrings, hfree.entry⟩
      exact hloaded.publishRecord now
  | setFieldValue fieldId value => exact hfree.setFieldValue fieldId hbrings
  | submit => exact hfree.submit now
  | formTextChanged text => exact ⟨hfree.records, hfree.entry⟩
  | recordTextChanged text => exact ⟨hfree.records, hfree.entry⟩
  | poll => exact hfree.poll now
  | settle => exact settle_keeps (fun now hfree => hfree.poll now) now hfree
  | setPaletteSearch | dragStart | dragOver | dragLeave | dragEnd | drop | dropOnCanvas | deleteElement
  | duplicateElement | morphElement | moveRow | rename | openMenu | closeOverlay | chooseEntry | openDialog
  | changeDraft | changeDraftType | saveDialog | deleteFromDialog | cancelDialog =>
      exact hfree.of_editsForm (editsForm_perform editor now rfl)

theorem run [PatternEngine] (steps : List (Operation × Time)) :
    ∀ {editor : Editor}, editor.HasFreeFormValues → (∀ step ∈ steps, step.1.IsFreeForm) →
      (editor.run steps).HasFreeFormValues := by
  induction steps with
  | nil => exact fun hfree _ => hfree
  | cons step steps ih =>
      intro editor hfree hsteps
      obtain ⟨hfirst, hothers⟩ := List.forall_mem_cons.mp hsteps
      exact ih (hfree.perform hfirst step.2) hothers

end HasFreeFormValues

end Editor

end FormEditor
