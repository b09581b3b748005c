import FormEditor.Pattern.Standard
import FormEditor.Proofs.Editor.Edits
import FormEditor.Proofs.Editor.Records
import FormEditor.Proofs.Sync.Mirror

/-! The texts of the editor mirror its models. Every operation that changes the form or the selected
record hands it to its bridge, and a selection that moves shows the record it moves to. So in every
run the text of the form stands on its surface or waits to be shown, unless the surface shows what was
typed last, and so does the text of the selected record. -/

namespace FormEditor.Editor

open Bridge

/-- How the texts stand to the form and the selected record, given what was typed last into each and
the delay with which changes are shown. -/
structure Mirrored (formTyped recordTyped : Option String) (delay : Nat) (editor : Editor) : Prop where
  form : editor.formBridge.Mirrors formTyped editor.form
  edits : editor.recordBridge.AttendsEdits recordTyped
  record : ∀ record, editor.records.selected = some record →
    editor.recordBridge.Mirrors recordTyped record
  present : editor.records.SelectionPresent
  formPrompt : editor.formBridge.Prompt delay
  recordPrompt : editor.recordBridge.Prompt delay

variable {editor : Editor} {formTyped recordTyped : Option String} {delay : Nat}

theorem mirrored_start (form : Form) (config : EditorConfig) (ids : IdSupply) (now : Time) :
    (start form config ids now).Mirrored none none config.modelDebounce where
  form := (attendsEdits_of_none rfl).mirrors_modelChanged form now
  edits := attendsEdits_of_none rfl
  record := nofun
  present := nofun
  formPrompt := (prompt_ofDelays _ _).modelChanged form now
  recordPrompt := prompt_ofDelays _ _

/-! ### Edits of the form -/

theorem Mirrored.of_editsForm {next : Editor} {now : Time}
    (hmirrored : editor.Mirrored formTyped recordTyped delay) (hedits : editor.EditsForm now next) :
    next.Mirrored formTyped recordTyped delay := by
  obtain ⟨hrecords, hbridge, -, -, hform⟩ := hedits
  refine ⟨?_, ?_, ?_, ?_, ?_, ?_⟩
  · rcases hform with ⟨hsame, hformBridge⟩ | hformBridge
    · rw [hsame, hformBridge]
      exact hmirrored.form
    · rw [hformBridge]
      exact hmirrored.form.attends.mirrors_modelChanged next.form now
  · rw [hbridge]
    exact hmirrored.edits
  · rw [hrecords, hbridge]
    exact hmirrored.record
  · rw [hrecords]
    exact hmirrored.present
  · rcases hform with ⟨-, hformBridge⟩ | hformBridge
    · rw [hformBridge]
      exact hmirrored.formPrompt
    · rw [hformBridge]
      exact hmirrored.formPrompt.modelChanged next.form now
  · rw [hbridge]
    exact hmirrored.recordPrompt

/-! ### Records -/

/-- Records that leave the selected one alone need not be handed to the bridge. -/
theorem Mirrored.withRecords (hmirrored : editor.Mirrored formTyped recordTyped delay) {store : RecordStore}
    (hpresent : store.SelectionPresent)
    (hselected : store.selected = editor.records.selected ∨ store.selected = none) :
    { editor with records := store }.Mirrored formTyped recordTyped delay := by
  refine ⟨hmirrored.form, hmirrored.edits, ?_, hpresent, hmirrored.formPrompt, hmirrored.recordPrompt⟩
  intro record hrecord
  rcases hselected with hsame | hnone
  · exact hmirrored.record record (hsame.symm.trans hrecord)
  · cases hnone.symm.trans hrecord

/-- Other records may come with the selected one if that is handed to the bridge. -/
theorem Mirrored.publishRecord (hmirrored : editor.Mirrored formTyped recordTyped delay)
    {store : RecordStore} (hpresent : store.SelectionPresent) (now : Time) :
    ({ editor with records := store }.publishRecord now).Mirrored formTyped recordTyped delay := by
  cases hselected : store.selected with
  | none =>
      have hnext : { editor with records := store }.publishRecord now = { editor with records := store } := by
        simp only [Editor.publishRecord, hselected]
      rw [hnext]
      exact hmirrored.withRecords hpresent (Or.inr hselected)
  | some record =>
      have hnext : { editor with records := store }.publishRecord now =
          { editor with
            records := store
            recordBridge := (editor.recordBridge.modelChanged record now).2 } := by
        simp only [Editor.publishRecord, hselected]
      have hmirrors := hmirrored.edits.mirrors_modelChanged record now
      rw [hnext]
      refine ⟨hmirrored.form, hmirrors.attends, ?_, hpresent, hmirrored.formPrompt,
        hmirrored.recordPrompt.modelChanged record now⟩
      intro other hother
      cases hselected.symm.trans hother
      exact hmirrors

/-- An outcome of the bridge of the record is passed over, or the record that was read is stored. -/
theorem adoptOutcome_cases (editor : Editor) (outcome : SyncOutcome Record) :
    (editor.adoptOutcome outcome).2 = editor ∨
    ∃ record store, outcome = .applied record ∧ editor.records.replace record = .ok store ∧
      (editor.adoptOutcome outcome).2 = { editor with records := store } := by
  cases outcome with
  | applied record =>
      cases hreplace : editor.records.replace record with
      | error cause => exact Or.inl (by simp only [adoptOutcome, adoptRecord, hreplace])
      | ok store =>
          exact Or.inr ⟨record, store, rfl, hreplace, by simp only [adoptOutcome, adoptRecord, hreplace]⟩
  | idle | pushed | rejected => exact Or.inl rfl

/-- What was typed for the record selected before is settled first; then the selected record is shown, if
there is one. -/
theorem switchRecordText_cases (editor : Editor) :
    ∃ store, (store = editor.records ∨ ∃ record, editor.records.replace record = .ok store) ∧
      ((store.selected = none ∧ editor.switchRecordText.2 =
          { editor with records := store, recordBridge := editor.recordBridge.flush.2 }) ∨
        ∃ record, store.selected = some record ∧ editor.switchRecordText.2 =
          { editor with
            records := store
            recordBridge := editor.recordBridge.flush.2.showModel record }) := by
  rcases adoptOutcome_cases { editor with recordBridge := editor.recordBridge.flush.2 }
      editor.recordBridge.flush.1 with hnext | ⟨typed, store, -, hreplace, hnext⟩
  · refine ⟨editor.records, Or.inl rfl, ?_⟩
    simp only [Editor.switchRecordText, hnext]
    cases hselected : editor.records.selected with
    | none => exact Or.inl ⟨rfl, rfl⟩
    | some record => exact Or.inr ⟨record, rfl, rfl⟩
  · refine ⟨store, Or.inr ⟨typed, hreplace⟩, ?_⟩
    simp only [Editor.switchRecordText, hnext]
    cases hselected : store.selected with
    | none => exact Or.inl ⟨rfl, rfl⟩
    | some record => exact Or.inr ⟨record, rfl, rfl⟩

/-- A selection that moves shows the record it moves to, whatever was queued. -/
theorem Mirrored.switchRecordText (hmirrored : editor.Mirrored formTyped recordTyped delay)
    {store : RecordStore} (hpresent : store.SelectionPresent) :
    { editor with records := store }.switchRecordText.2.Mirrored formTyped recordTyped delay := by
  have hprompt := hmirrored.recordPrompt.flush
  obtain ⟨settled, hsettled, hshown⟩ := { editor with records := store }.switchRecordText_cases
  have hpresent : settled.SelectionPresent := by
    rcases hsettled with hsame | ⟨record, hreplace⟩
    · exact hsame ▸ hpresent
    · exact hpresent.update hreplace
  rcases hshown with ⟨hnone, hnext⟩ | ⟨record, hsome, hnext⟩
  · rw [hnext]
    refine ⟨hmirrored.form, hmirrored.edits.flush, ?_, hpresent, hmirrored.formPrompt, hprompt⟩
    intro record hrecord
    cases hnone.symm.trans hrecord
  · have hmirrors := mirrors_showModel recordTyped record editor.recordBridge.flush.2
    rw [hnext]
    refine ⟨hmirrored.form, hmirrors.attends, ?_, hpresent, hmirrored.formPrompt,
      hprompt.showModel record⟩
    intro other hother
    cases hsome.symm.trans hother
    exact hmirrors

/-- The mode, the overlay and the entry have no part in the texts. -/
theorem Mirrored.setMode (hmirrored : editor.Mirrored formTyped recordTyped delay) (mode : ViewMode) :
    (editor.setMode mode).2.Mirrored formTyped recordTyped delay :=
  ⟨hmirrored.form, hmirrored.edits, hmirrored.record, hmirrored.present, hmirrored.formPrompt,
    hmirrored.recordPrompt⟩

theorem Mirrored.withEntry (hmirrored : editor.Mirrored formTyped recordTyped delay) (entry : Entry) :
    { editor with entry }.Mirrored formTyped recordTyped delay :=
  ⟨hmirrored.form, hmirrored.edits, hmirrored.record, hmirrored.present, hmirrored.formPrompt,
    hmirrored.recordPrompt⟩

theorem Mirrored.openRecord (hmirrored : editor.Mirrored formTyped recordTyped delay) (id : RecordId)
    (mode : ViewMode) (now : Time) :
    (editor.openRecord id mode now).2.Mirrored formTyped recordTyped delay := by
  have hopens := editor.opens_openRecord id mode now
  generalize editor.openRecord id mode now = result at hopens ⊢
  cases hopens with
  | missing => exact hmirrored
  | again hselect => exact (hmirrored.publishRecord (RecordStore.selectionPresent_select hselect) now).setMode mode
  | switched hselect => exact (hmirrored.switchRecordText (RecordStore.selectionPresent_select hselect)).setMode mode

theorem Mirrored.deleteRecord (hmirrored : editor.Mirrored formTyped recordTyped delay) (id : RecordId) :
    (editor.deleteRecord id).2.Mirrored formTyped recordTyped delay := by
  have hrest {record : Record} {store : RecordStore} (hdelete : editor.records.delete id = some (record, store)) :
      { editor with records := store }.Mirrored formTyped recordTyped delay := by
    have hselected : store.selected = editor.records.selected ∨ store.selected = none := by
      rcases RecordStore.delete_eq_some hdelete with ⟨-, hnone⟩ | ⟨-, -, hsame⟩
      · exact Or.inr (RecordStore.selected_of_none hnone)
      · exact Or.inl hsame
    exact hmirrored.withRecords (hmirrored.present.delete hdelete) hselected
  have hremoves := editor.removes_deleteRecord id
  generalize editor.deleteRecord id = result at hremoves ⊢
  cases hremoves with
  | missing => exact hmirrored
  | closed hdelete => exact (hrest hdelete).setMode .list
  | removed hdelete => exact hrest hdelete

theorem Mirrored.pressButton (hmirrored : editor.Mirrored formTyped recordTyped delay) (id : RecordId)
    (button : ListButton) (now : Time) :
    (editor.pressButton id button now).2.Mirrored formTyped recordTyped delay := by
  cases button with
  | view => exact hmirrored.openRecord id .view now
  | update => exact hmirrored.openRecord id .update now
  | delete => exact hmirrored.deleteRecord id

theorem Mirrored.setFieldValue [PatternEngine] (hmirrored : editor.Mirrored formTyped recordTyped delay)
    (fieldId : String) (value : Json) :
    (editor.setFieldValue fieldId value).2.Mirrored formTyped recordTyped delay := by
  have henters := editor.enters_setFieldValue fieldId value
  generalize editor.setFieldValue fieldId value = result at henters ⊢
  cases henters with
  | ignored => exact hmirrored
  | entered => exact hmirrored.withEntry _

theorem Mirrored.submit [PatternEngine] (hmirrored : editor.Mirrored formTyped recordTyped delay) (now : Time) :
    (editor.submit now).2.Mirrored formTyped recordTyped delay := by
  have hvalidated := hmirrored.withEntry (editor.entry.validateAll editor.form)
  have hsubmits := editor.submits_submit now
  generalize editor.submit now = result at hsubmits ⊢
  cases hsubmits with
  | ignored => exact hmirrored
  | refused | lost => exact hvalidated
  | added =>
      have hpresent := hmirrored.present.insert editor.entry.values
      have hselected := RecordStore.selected_insert hmirrored.present editor.entry.values
      exact (hmirrored.withRecords hpresent (Or.inl hselected)).withEntry .blank
  | updated _ _ _ hupdate => exact hvalidated.publishRecord (hmirrored.present.update hupdate) now

/-! ### Typing and polling -/

theorem Mirrored.formTextChanged (hmirrored : editor.Mirrored formTyped recordTyped delay)
    (text : String) (now : Time) :
    (editor.formTextChanged text now).Mirrored (some text) recordTyped delay :=
  ⟨hmirrored.form.editText text now, hmirrored.edits, hmirrored.record, hmirrored.present,
    hmirrored.formPrompt.editText text now, hmirrored.recordPrompt⟩

theorem Mirrored.recordTextChanged (hmirrored : editor.Mirrored formTyped recordTyped delay)
    (text : String) (now : Time) :
    (editor.recordTextChanged text now).Mirrored formTyped (some text) delay :=
  ⟨hmirrored.form, hmirrored.edits.editText text now,
    fun record hrecord => (hmirrored.record record hrecord).editText text now, hmirrored.present,
    hmirrored.formPrompt, hmirrored.recordPrompt.editText text now⟩

theorem Mirrored.pollForm (hmirrored : editor.Mirrored formTyped recordTyped delay) (now : Time) :
    (editor.pollForm now).2.Mirrored formTyped recordTyped delay := by
  have hmirrors := hmirrored.form.poll now
  have hprompt := hmirrored.formPrompt.poll now
  unfold Editor.pollForm
  split
  · rename_i form formBridge hpoll
    have happlied := hmirrored.form.attends.mirrors_applied (congrArg Prod.fst hpoll) form
    rw [hpoll] at happlied hprompt
    exact ⟨happlied, hmirrored.edits, hmirrored.record, hmirrored.present, hprompt,
      hmirrored.recordPrompt⟩
  · rename_i formBridge hpoll
    rw [hpoll] at hmirrors hprompt
    exact ⟨hmirrors, hmirrored.edits, hmirrored.record, hmirrored.present, hprompt,
      hmirrored.recordPrompt⟩
  · rename_i formBridge hpoll
    rw [hpoll] at hmirrors hprompt
    exact ⟨hmirrors, hmirrored.edits, hmirrored.record, hmirrored.present, hprompt,
      hmirrored.recordPrompt⟩

theorem Mirrored.pollRecord (hmirrored : editor.Mirrored formTyped recordTyped delay) (now : Time) :
    (editor.pollRecord now).2.Mirrored formTyped recordTyped delay := by
  have hedits := hmirrored.edits.poll now
  have hprompt := hmirrored.recordPrompt.poll now
  rcases adoptOutcome_cases { editor with recordBridge := (editor.recordBridge.poll now).2 }
      (editor.recordBridge.poll now).1 with hnext | ⟨read, store, happlied, hreplace, hnext⟩
  · rw [Editor.pollRecord, hnext]
    exact ⟨hmirrored.form, hedits, fun record hrecord => (hmirrored.record record hrecord).poll now,
      hmirrored.present, hmirrored.formPrompt, hprompt⟩
  · rw [Editor.pollRecord, hnext]
    exact ⟨hmirrored.form, hedits, fun record _ => hmirrored.edits.mirrors_applied happlied record,
      hmirrored.present.update hreplace, hmirrored.formPrompt, hprompt⟩

theorem Mirrored.poll (hmirrored : editor.Mirrored formTyped recordTyped delay) (now : Time) :
    (editor.poll now).2.Mirrored formTyped recordTyped delay :=
  (hmirrored.pollForm now).pollRecord now

/-! ### Runs -/

/-- A step keeps the texts in agreement with their models. -/
theorem Mirrored.perform [PatternEngine] (hmirrored : editor.Mirrored formTyped recordTyped delay)
    (operation : Operation) (now : Time) :
    (editor.perform operation now).2.Mirrored (operation.formText?.or formTyped)
      (operation.recordText?.or recordTyped) delay := by
  cases operation with
  | setMode mode => exact hmirrored.setMode mode
  | pressButton id button => exact hmirrored.pressButton id button now
  | loadRecords records => exact hmirrored.publishRecord (RecordStore.selectionPresent_ofList records) now
  | setFieldValue fieldId value => exact hmirrored.setFieldValue fieldId value
  | submit => exact hmirrored.submit now
  | formTextChanged text => exact hmirrored.formTextChanged text now
  | recordTextChanged text => exact hmirrored.recordTextChanged text now
  | poll => exact hmirrored.poll now
  | settle => exact settle_keeps (fun now hmirrored => hmirrored.poll now) now hmirrored
  | setPaletteSearch | dragStart | dragOver | dragLeave | dragEnd | drop | dropOnCanvas | deleteElement
  | duplicateElement | morphElement | moveRow | rename | openMenu | closeOverlay | chooseEntry | openDialog
  | changeDraft | changeDraftType | saveDialog | deleteFromDialog | cancelDialog =>
      exact hmirrored.of_editsForm (editsForm_perform editor now rfl)

theorem Mirrored.run [PatternEngine] (steps : List (Operation × Time)) :
    ∀ {editor : Editor} {formTyped recordTyped : Option String},
      editor.Mirrored formTyped recordTyped delay →
        (editor.run steps).Mirrored (Operation.lastFormText formTyped steps)
          (Operation.lastRecordText recordTyped steps) delay := by
  induction steps with
  | nil => exact fun hmirrored => hmirrored
  | cons step steps ih => exact fun hmirrored => ih (hmirrored.perform step.1 step.2)

/-- **The texts mirror the models.** After any run of an editor that was started with any delays, the
text of the form is on its surface, or waits to be shown, or the surface holds what was typed into it
last; and so with the text of the selected record. Where nothing was typed and changes are shown
without delay, the surfaces hold the two texts. -/
theorem texts_mirror_models [PatternEngine] (form : Form) (config : EditorConfig) (ids : IdSupply) (now : Time)
    (steps : List (Operation × Time)) :
    let editor := (start form config ids now).run steps
    let formTyped := Operation.lastFormText none steps
    let recordTyped := Operation.lastRecordText none steps
    (editor.formText = editor.form.text ∨
      (∃ deadline, editor.formBridge.outbound.pending = some ⟨deadline, editor.form.text⟩) ∨
      formTyped = some editor.formText) ∧
    (∀ record, editor.records.selected = some record →
      editor.recordText = record.text ∨
      (∃ deadline, editor.recordBridge.outbound.pending = some ⟨deadline, record.text⟩) ∨
      recordTyped = some editor.recordText) ∧
    (config.modelDebounce = 0 → formTyped = none → editor.formText = editor.form.text) ∧
    (config.modelDebounce = 0 → recordTyped = none →
      ∀ record, editor.records.selected = some record → editor.recordText = record.text) := by
  intro editor formTyped recordTyped
  have hmirrored : editor.Mirrored formTyped recordTyped config.modelDebounce :=
    (mirrored_start form config ids now).run steps
  refine ⟨hmirrored.form.cases, fun record hselected => (hmirrored.record record hselected).cases, ?_, ?_⟩
  · intro hdelay hsilent
    have hmirrors := hmirrored.form
    have hprompt := hmirrored.formPrompt
    rw [hsilent] at hmirrors
    rw [hdelay] at hprompt
    exact hmirrors.surface_eq hprompt
  · intro hdelay hsilent record hselected
    have hmirrors := hmirrored.record record hselected
    have hprompt := hmirrored.recordPrompt
    rw [hsilent] at hmirrors
    rw [hdelay] at hprompt
    exact hmirrors.surface_eq hprompt

/-- A record is opened and the form is renamed, and nothing is typed. -/
theorem untyped_texts_shown :
    let form := Form.blank "u"
    let record : Record := ⟨1, .ofList [("a", .string "x")]⟩
    let steps : List (Operation × Time) :=
      [(.loadRecords [record], 1), (.pressButton 1 .update, 2), (.rename "B", 3)]
    let editor := (start form .standard ⟨5⟩ 0).run steps
    EditorConfig.standard.modelDebounce = 0 ∧ Operation.lastFormText none steps = none ∧
      Operation.lastRecordText none steps = none ∧
      editor.form.config.name = "B" ∧ editor.formText = editor.form.text ∧
      editor.records.selected = some record ∧ editor.recordText = record.text := by
  intro form record steps editor
  have hselected : editor.records.selected = some record := by decide +kernel
  obtain ⟨-, -, hform, hrecord⟩ := texts_mirror_models form .standard ⟨5⟩ 0 steps
  exact ⟨rfl, rfl, rfl, by decide +kernel, hform rfl rfl, hselected, hrecord rfl rfl record hselected⟩

end FormEditor.Editor
