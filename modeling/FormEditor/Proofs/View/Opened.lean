import FormEditor.Pattern.Standard
import FormEditor.Proofs.Editor.Outliving
import FormEditor.Proofs.Editor.Refusal
import FormEditor.Proofs.View.Picture

/-! A record that is opened to be looked at or to be updated. The pictures take the values from different places,
once from the record itself and once from the entry, but the entry starts with the fields of the record. So a
record looks the same in both modes, whatever was typed for another one and is settled by opening it. The entry
has all the fields of the record, those too that the form does not know, and to submit it untouched is to give
the record the fields that it has. -/

namespace FormEditor.Editor

variable {editor : Editor} {id : RecordId} {record : Record}

/-! ### What opening leaves -/

/-- The records after a record was opened do not depend on the mode, and their selected one is the one that was
opened. -/
theorem openRecord_of_mem (hmem : id ∈ editor.records.ids) :
    ∃ records record, records.selectedId = some id ∧ records.get? id = some record ∧
      ∀ mode now, ∃ recordBridge,
        (editor.openRecord id mode now).2 = ({ editor with records, recordBridge }.setMode mode).2 := by
  by_cases hselected : editor.records.selectedId = some id
  · obtain ⟨record, hrecord⟩ := Option.isSome_iff_exists.mp ((RecordStore.isSome_get?_iff id).mpr hmem)
    refine ⟨editor.records, record, hselected, hrecord, fun mode now => ?_⟩
    obtain ⟨recordBridge, hpublished⟩ := editor.publishRecord_eq now
    rw [openRecord_of_selected hmem hselected, hpublished]
    exact ⟨recordBridge, rfl⟩
  · obtain ⟨settled, records, record, -, hselected, hrecord, hnext⟩ := openRecord_of_other hmem hselected
    refine ⟨records, record, hselected, hrecord, fun mode now => ?_⟩
    rw [hnext mode now]
    exact ⟨_, rfl⟩

/-- The selected record is open, to be looked at or to be updated with its own fields. -/
structure HasOpen (editor : Editor) (id : RecordId) (record : Record) : Prop where
  selectedId : editor.records.selectedId = some id
  stored : editor.records.get? id = some record
  mode : editor.mode = .view ∨ editor.mode = .update ∧ editor.entry = .ofRecord record

theorem HasOpen.selected (hopen : editor.HasOpen id record) : editor.records.selected = some record := by
  rw [RecordStore.selected, hopen.selectedId, Option.bind_some, hopen.stored]

theorem HasOpen.entry (hopen : editor.HasOpen id record) (hmode : editor.mode = .update) :
    editor.entry = .ofRecord record := by
  rcases hopen.mode with hview | ⟨-, hentry⟩
  · cases hmode.symm.trans hview
  · exact hentry

theorem hasOpen_setMode {mode : ViewMode} (hselected : editor.records.selectedId = some id)
    (hrecord : editor.records.get? id = some record) (hmode : mode = .view ∨ mode = .update) :
    (editor.setMode mode).2.HasOpen id record := by
  refine ⟨hselected, hrecord, hmode.imp_right ?_⟩
  rintro rfl
  have hopened : editor.records.selected = some record := by
    rw [RecordStore.selected, hselected, Option.bind_some, hrecord]
  refine ⟨rfl, ?_⟩
  show (editor.records.selected.map Entry.ofRecord).getD .blank = .ofRecord record
  rw [hopened]
  rfl

/-! ### The picture of an open record -/

theorem map_value_widgets_formView (editor : Editor) :
    editor.formView.widgets.map (·.value) =
      editor.form.fields.map fun field => (editor.shownValue field.id).getD .null := by
  rw [widgets_formView, List.map_map]
  rfl

theorem HasOpen.shownValue (hopen : editor.HasOpen id record) (fieldId : String) :
    editor.shownValue fieldId = record.fields.get? fieldId := by
  unfold Editor.shownValue
  rcases hopen.mode with hmode | ⟨hmode, hentry⟩
  · rw [hmode, hopen.selected]
    rfl
  · rw [hmode, hentry]
    rfl

theorem HasOpen.view (hopen : editor.HasOpen id record) : editor.project.view = .form editor.formView := by
  show editor.view = _
  unfold Editor.view
  rcases hopen.mode with hmode | ⟨hmode, -⟩ <;> rw [hmode, hopen.selected]

/-- Every field has a widget with the value of the record under its id. -/
theorem HasOpen.values (hopen : editor.HasOpen id record) :
    editor.formView.widgets.map (·.value) =
      editor.form.fields.map fun field => (record.fields.get? field.id).getD .null := by
  rw [map_value_widgets_formView]
  simp only [hopen.shownValue]

/-! ### The submission of an untouched entry -/

theorem HasOpen.submit [PatternEngine] (hopen : editor.HasOpen id record) (hmode : editor.mode = .update)
    (hvalid : (editor.entry.validateAll editor.form).hasErrors = false) (now : Time) :
    (editor.submit now).1 = [.recordUpdated id] ∧ (editor.submit now).2.records = editor.records := by
  have hsame : editor.records.update id editor.entry.values = .ok editor.records := by
    rw [hopen.entry hmode]
    exact RecordStore.update_of_get? hopen.stored
  have hmem := (RecordStore.update_eq_ok hsame).1
  obtain ⟨hreported, hupdate⟩ := submit_of_update hmode hopen.selectedId hmem hvalid now
  exact ⟨hreported, Except.ok.inj (hupdate.symm.trans hsame)⟩

/-- **To look at a record and to update it are to see the same.** If a record is opened in either mode, the form is to
be seen, and every field of it has the value of the record that is stored by then, which is one record for both
modes. If the entry of an update is valid and submitted as it is, an update of the record is reported, but all
records are what they were before, in each of their fields. -/
theorem opened_record_shown_alike [PatternEngine] (editor : Editor) {id : RecordId} (hmem : id ∈ editor.records.ids)
    (now later again : Time) :
    let viewed := (editor.pressButton id .view now).2
    let updated := (editor.pressButton id .update later).2
    (∃ record first second, viewed.records.get? id = some record ∧ updated.records.get? id = some record ∧
      viewed.project.view = .form first ∧ updated.project.view = .form second ∧
      first.widgets.map (·.value) = second.widgets.map (·.value) ∧
      second.widgets.map (·.value) =
        editor.form.fields.map fun field => (record.fields.get? field.id).getD .null) ∧
    ((updated.entry.validateAll updated.form).hasErrors = false →
      (updated.submit again).1 = [.recordUpdated id] ∧ (updated.submit again).2.records = updated.records) := by
  obtain ⟨records, record, hselected, hrecord, hnext⟩ := openRecord_of_mem hmem
  obtain ⟨viewBridge, hview⟩ := hnext .view now
  obtain ⟨updateBridge, hupdate⟩ := hnext .update later
  intro viewed updated
  have hviewed : viewed = ({ editor with records, recordBridge := viewBridge }.setMode .view).2 := hview
  have hupdated : updated = ({ editor with records, recordBridge := updateBridge }.setMode .update).2 := hupdate
  have hfirst : viewed.HasOpen id record := hviewed ▸ hasOpen_setMode hselected hrecord (Or.inl rfl)
  have hsecond : updated.HasOpen id record := hupdated ▸ hasOpen_setMode hselected hrecord (Or.inr rfl)
  have hfirstForm : viewed.form = editor.form := by rw [hviewed]; rfl
  have hsecondForm : updated.form = editor.form := by rw [hupdated]; rfl
  have hfirstValues := hfirst.values
  have hsecondValues := hsecond.values
  rw [hfirstForm] at hfirstValues
  rw [hsecondForm] at hsecondValues
  refine ⟨⟨record, _, _, hfirst.stored, hsecond.stored, hfirst.view, hsecond.view, ?_, hsecondValues⟩, ?_⟩
  · exact hfirstValues.trans hsecondValues.symm
  · have hmode : updated.mode = .update := by rw [hupdated]; rfl
    exact fun hvalid => hsecond.submit hmode hvalid again

/-- What was typed for a record is taken up as the record is opened. One of its values is for no field of the form. -/
theorem typed_record_shown_alike :
    let text := "\x7b\"id\": 2, \"k\": null, \"a\": \"x\"\x7d"
    let typed : Record := ⟨2, .ofList [("a", .string "x"), ("k", .null)]⟩
    let steps : List (Operation × Time) := [(.loadRecords [⟨1, .empty⟩, ⟨2, .empty⟩], 0),
      (.pressButton 1 .view, 0), (.recordTextChanged text, 0)]
    let editor := (start checkedForm .standard ⟨0⟩ 0).run steps
    let updated := (editor.pressButton 2 .update 10).2
    (∃ first second, (editor.pressButton 2 .view 10).2.project.view = .form first ∧
      updated.project.view = .form second ∧ first.widgets.map (·.value) = second.widgets.map (·.value) ∧
      second.widgets.map (·.value) = [.string "x"]) ∧
    (updated.submit 20).1 = [.recordUpdated 2] ∧ (updated.submit 20).2.records.get? 2 = some typed := by
  intro text typed steps editor updated
  have hmem : 2 ∈ editor.records.ids := by decide +kernel
  have htyped : updated.records.get? 2 = some typed := by decide +kernel
  obtain ⟨hshown, hsubmit⟩ := opened_record_shown_alike editor hmem 10 10 20
  obtain ⟨record, first, second, -, hrecord, hfirst, hsecond, hsame, hvalues⟩ := hshown
  obtain ⟨hreported, hkept⟩ := hsubmit (by decide +kernel)
  cases htyped.symm.trans hrecord
  refine ⟨⟨first, second, hfirst, hsecond, hsame, hvalues.trans ?_⟩, hreported, ?_⟩
  · decide +kernel
  · rw [hkept]
    exact htyped

end FormEditor.Editor
