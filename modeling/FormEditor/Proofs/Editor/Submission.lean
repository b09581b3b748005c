import FormEditor.Pattern.Standard
import FormEditor.Proofs.Editor.Binding

/-! Which record a submission writes. In UPDATE no operation but an entry into UPDATE selects a record, so
the record that is selected when the entry is submitted was selected all the time since the entry was bound,
and it is the one that the entry was bound to. -/

namespace FormEditor.Editor

/-- A record is being updated. -/
structure Updates (id : RecordId) (editor : Editor) : Prop where
  mode : editor.mode = .update
  selected : editor.records.selectedId = some id

variable {editor next : Editor} {id : RecordId}

theorem selectedId_adoptOutcome (editor : Editor) (outcome : SyncOutcome Record) :
    (editor.adoptOutcome outcome).2.records.selectedId = editor.records.selectedId := by
  rcases editor.adoptOutcome_cases outcome with hnext | ⟨_, store, -, hreplace, hnext⟩
  · rw [hnext]
  · rw [hnext]
    exact (RecordStore.rewrites_update hreplace).2.2

theorem selectedId_poll (editor : Editor) (now : Time) :
    (editor.poll now).2.records.selectedId = editor.records.selectedId := by
  rw [← records_pollForm editor now]
  exact selectedId_adoptOutcome _ _

theorem selectedId_settle (editor : Editor) (now : Time) :
    (editor.settle now).2.2.records.selectedId = editor.records.selectedId :=
  @settle_keeps (fun next => next.records.selectedId = editor.records.selectedId)
    (fun now hselected => (selectedId_poll _ now).trans hselected) editor now rfl

namespace Updates

theorem of_editsForm {now : Time} (hedits : editor.EditsForm now next) (hupdates : next.Updates id) :
    editor.Updates id :=
  ⟨hedits.mode.symm.trans hupdates.mode, hedits.records ▸ hupdates.selected⟩

theorem of_openRecord (other : RecordId) (mode : ViewMode) (now : Time)
    (hstays : (editor.records.get? other).isSome = true → mode ≠ .update)
    (hupdates : (editor.openRecord other mode now).2.Updates id) : editor.Updates id := by
  rcases editor.openRecord_cases other mode now with ⟨-, hnext⟩ | ⟨hsome, shown, hnext⟩
  · rw [hnext] at hupdates
    exact hupdates
  · rw [hnext] at hupdates
    exact absurd hupdates.mode (hstays hsome)

theorem of_deleteRecord (other : RecordId) (hupdates : (editor.deleteRecord other).2.Updates id) :
    editor.Updates id := by
  have hremoves := editor.removes_deleteRecord other
  generalize editor.deleteRecord other = result at hremoves hupdates
  cases hremoves with
  | missing => exact hupdates
  | closed => cases hupdates.mode
  | removed hdelete =>
      rcases RecordStore.delete_eq_some hdelete with ⟨-, hnone⟩ | ⟨-, hkept, -⟩
      · cases hnone.symm.trans hupdates.selected
      · exact ⟨hupdates.mode, hkept.symm.trans hupdates.selected⟩

/-- Unless a step enters UPDATE, a record that is being updated after it was so before. -/
theorem of_perform [PatternEngine] {operation : Operation} {now : Time} (hstays : editor.entersUpdate operation = false)
    (hupdates : (editor.perform operation now).2.Updates id) : editor.Updates id := by
  cases operation with
  | setMode mode => exact absurd hupdates.mode (of_decide_eq_false hstays)
  | pressButton other button =>
      cases button with
      | view => exact of_openRecord other .view now (fun _ => nofun) hupdates
      | update =>
          have habsent : ¬(editor.records.get? other).isSome = true := Bool.eq_false_iff.mp hstays
          exact of_openRecord other .update now (fun hsome => absurd hsome habsent) hupdates
      | delete => exact of_deleteRecord other hupdates
  | loadRecords records =>
      obtain ⟨bridge, hnext⟩ := editor.loadRecords_eq records now
      have hselected : (editor.loadRecords records now).records.selectedId = some id := hupdates.selected
      rw [hnext] at hselected
      cases hselected
  | setFieldValue fieldId value =>
      have hrecords : (editor.setFieldValue fieldId value).2.records = editor.records := by
        have henters := editor.enters_setFieldValue fieldId value
        generalize editor.setFieldValue fieldId value = result at henters ⊢
        cases henters <;> rfl
      exact ⟨(mode_setFieldValue editor fieldId value).symm.trans hupdates.mode, hrecords ▸ hupdates.selected⟩
  | submit =>
      have hmode : editor.mode = .update := (mode_submit editor now).symm.trans hupdates.mode
      refine ⟨hmode, ?_⟩
      rw [← hupdates.selected]
      rcases (submit_cases hmode now).2 with ⟨-, hrecords⟩ | ⟨_, -, -, hupdate⟩
      · exact congrArg (·.selectedId) hrecords.symm
      · exact (RecordStore.rewrites_update hupdate).2.2.symm
  | formTextChanged text => exact ⟨hupdates.mode, hupdates.selected⟩
  | recordTextChanged text => exact ⟨hupdates.mode, hupdates.selected⟩
  | poll =>
      exact ⟨(mode_poll editor now).symm.trans hupdates.mode,
        (selectedId_poll editor now).symm.trans hupdates.selected⟩
  | settle =>
      exact ⟨(mode_settle editor now).symm.trans hupdates.mode,
        (selectedId_settle editor now).symm.trans hupdates.selected⟩
  | setPaletteSearch | dragStart | dragOver | dragLeave | dragEnd | drop | dropOnCanvas | deleteElement
  | duplicateElement | morphElement | moveRow | rename | openMenu | closeOverlay | chooseEntry | openDialog
  | changeDraft | changeDraftType | saveDialog | deleteFromDialog | cancelDialog =>
      exact of_editsForm (editsForm_perform editor now rfl) hupdates

/-- A record that is being updated after a run that does not enter UPDATE was so all the time. -/
theorem throughout [PatternEngine] (steps : List (Operation × Time)) :
    ∀ {editor : Editor}, editor.entersUpdateOn steps = false → (editor.run steps).Updates id →
      ∀ done, done <+: steps → (editor.run done).Updates id := by
  induction steps with
  | nil =>
      intro editor _ hupdates done hdone
      rw [List.prefix_nil.mp hdone]
      exact hupdates
  | cons step steps ih =>
      intro editor hstays hupdates done hdone
      obtain ⟨hfirst, hrest⟩ := Bool.or_eq_false_iff.mp hstays
      have hlater := ih hrest hupdates
      rcases List.prefix_cons_iff.mp hdone with rfl | ⟨rest, rfl, hprefix⟩
      · exact of_perform hfirst (hlater [] List.nil_prefix)
      · exact hlater rest hprefix

end Updates

/-- **A submission in UPDATE writes the record that its entry was bound to, and no other.** Whenever a run
submits the entry to a record, the mode is UPDATE. When the run last entered UPDATE, that record was selected
and the entry became that of the record; since then UPDATE was never left, and the record stayed selected and
in the store. The entry still has the values of the record under every name that was not entered since. The
submission gives this one record the values of the entry and leaves all other records, their ids
and their order alone. -/
theorem submission_writes_bound_record [PatternEngine] (form : Form) (config : EditorConfig) (ids : IdSupply)
    (started : Time) (steps : List (Operation × Time)) (now : Time) {id : RecordId} :
    let editor := (start form config ids started).run steps
    let after := (editor.submit now).2
    .recordUpdated id ∈ (editor.submit now).1 →
    editor.mode = .update ∧
    (∃ before binding since record, steps = before ++ binding :: since ∧
      let unbound := (start form config ids started).run before
      let bound := (unbound.perform binding.1 binding.2).2
      unbound.entersUpdate binding.1 = true ∧ bound.entersUpdateOn since = false ∧
      record.id = id ∧ bound.records.selected = some record ∧ bound.entry = .ofRecord record ∧
      (∀ done, done <+: since → (bound.run done).Updates id ∧ id ∈ (bound.run done).records.ids) ∧
      ∀ name, .entryChanged name ∉ bound.report since →
        editor.entry.value? name = record.fields.get? name) ∧
    RecordStore.Rewrites id editor.entry.values editor.records.records after.records.records ∧
    after.records.ids = editor.records.ids ∧ after.records.selectedId = some id := by
  intro editor after hupdated
  have hmode : editor.mode = .update := mode_of_recordUpdated hupdated
  obtain ⟨-, ⟨hrefused, -⟩ | ⟨selected, hselected, hreport, hstored⟩⟩ := submit_cases hmode now
  · exact absurd hupdated (hrefused id)
  rw [hreport] at hupdated
  cases List.mem_singleton.mp hupdated
  obtain ⟨hrewrites, hids, hselection⟩ := RecordStore.rewrites_update hstored
  refine ⟨hmode, ?_, hrewrites, hids, hselection.trans hselected⟩
  rcases last_entry steps (start form config ids started) with
    hnever | ⟨before, binding, since, rfl, henters, hlast⟩
  · -- nothing is selected at the start
    have hstart := Updates.throughout steps hnever ⟨hmode, hselected⟩ [] List.nil_prefix
    cases hstart.selected
  · have hmirrored := ((mirrored_start form config ids started).run before).perform binding.1 binding.2
    obtain ⟨-, hentry⟩ := entry_of_entersUpdate henters binding.2
    have heditor : editor = (((start form config ids started).run before).perform binding.1 binding.2).2.run
        since := run_append _ before (binding :: since)
    rw [heditor] at hmode hselected
    have hthroughout := Updates.throughout since hlast ⟨hmode, hselected⟩
    have hbound := (hthroughout [] List.nil_prefix).selected
    obtain ⟨record, hrecord⟩ :=
      Option.isSome_iff_exists.mp (RecordStore.isSome_selected hmirrored.present hbound)
    have hkeeps := KeepsBinding.run since (fun _ => .refl (isBound_of_entry hentry)) hlast hmode
    rw [← heditor] at hkeeps
    rw [hrecord] at hentry
    refine ⟨before, binding, since, record, rfl, henters, hlast,
      RecordStore.id_of_selected hbound hrecord, hrecord, hentry, ?_, ?_⟩
    · intro done hdone
      have hupdates := hthroughout done hdone
      exact ⟨hupdates, (hmirrored.run done).present id hupdates.selected⟩
    · intro name hsilent
      exact (hkeeps.entry name hsilent).trans (by rw [hentry]; rfl)

/-- A value is entered for the second of two records and submitted. -/
theorem entered_value_written :
    let fieldId := IdSupply.id "text" 0
    let records : List Record := [⟨1, .empty⟩, ⟨2, .ofList [("a", .string "x")]⟩]
    let steps : List (Operation × Time) := [(.dropOnCanvas (.ofType .text), 0), (.loadRecords records, 0),
      (.pressButton 2 .update, 0), (.setFieldValue fieldId (.string "y"), 0)]
    let editor := (start (.blank "u") .standard ⟨0⟩ 0).run steps
    let after := (editor.submit 10).2
    .recordUpdated 2 ∈ (editor.submit 10).1 ∧ editor.entry.value? fieldId = some (.string "y") ∧
    RecordStore.Rewrites 2 editor.entry.values editor.records.records after.records.records := by
  intro fieldId records steps
  have hupdated : .recordUpdated 2 ∈ (((start (.blank "u") .standard ⟨0⟩ 0).run steps).submit 10).1 := by
    decide +kernel
  obtain ⟨-, -, hrewrites, -⟩ := submission_writes_bound_record (.blank "u") .standard ⟨0⟩ 0 steps 10 hupdated
  exact ⟨hupdated, by decide +kernel, hrewrites⟩

end FormEditor.Editor
