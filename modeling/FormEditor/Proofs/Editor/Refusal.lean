import FormEditor.Pattern.Standard
import FormEditor.Proofs.Editor.Step
import FormEditor.Proofs.Form.Validation

/-! Which submissions are refused. A message comes into the entry when a field fails, and a submission validates
all fields anew, but those of the form as it is then. A message for a field that has left the form in the
meantime, be it deleted or changed into something else or replaced with the whole form, is seen to by nobody. It
stays with the entry and holds back its submissions. -/

namespace FormEditor.Editor

variable {editor next : Editor} {actions : List Action} {name : String}

/-! ### Where the messages come from -/

/-- The entry that a mode starts is the one before, or has no messages. -/
theorem error?_startEntry {mode : ViewMode} (hmessage : ((editor.startEntry mode).error? name).isSome) :
    (editor.entry.error? name).isSome := by
  cases mode with
  | add => cases hmessage
  | update =>
      change (((editor.records.selected.map Entry.ofRecord).getD .blank).error? name).isSome at hmessage
      cases hselected : editor.records.selected with
      | none =>
          rw [hselected] at hmessage
          cases hmessage
      | some record =>
          rw [hselected] at hmessage
          cases hmessage
  | editor | formJson | list | view | formDataJson => exact hmessage

theorem error?_openRecord {id : RecordId} {mode : ViewMode} {now : Time}
    (hmessage : ((editor.openRecord id mode now).2.entry.error? name).isSome) :
    (editor.entry.error? name).isSome := by
  rcases editor.openRecord_eq id mode now with hnext | ⟨records, bridge, hnext⟩
  · rw [hnext] at hmessage
    exact hmessage
  · rw [hnext] at hmessage
    exact @error?_startEntry { editor with records, recordBridge := bridge } name mode hmessage

theorem error?_of_editsForm {now : Time} (hedits : editor.EditsForm now next)
    (hmessage : (next.entry.error? name).isSome) : (editor.entry.error? name).isSome := by
  rw [hedits.entry] at hmessage
  exact hmessage

theorem entry_deleteRecord (editor : Editor) (id : RecordId) : (editor.deleteRecord id).2.entry = editor.entry := by
  have hremoves := editor.removes_deleteRecord id
  generalize editor.deleteRecord id = result at hremoves ⊢
  cases hremoves <;> rfl

/-- Entering a value renews the message of its field, and of no other. -/
theorem failsAt_of_error?_setFieldValue [PatternEngine] {fieldId : String} {value : Json}
    (hmessage : ((editor.setFieldValue fieldId value).2.entry.error? name).isSome) :
    (editor.entry.error? name).isSome ∨
      editor.form.FailsAt (editor.setFieldValue fieldId value).2.entry name := by
  have henters := editor.enters_setFieldValue fieldId value
  generalize editor.setFieldValue fieldId value = result at henters hmessage ⊢
  cases henters with
  | ignored => exact Or.inl hmessage
  | @entered field _ hfield =>
      rw [Entry.setValue, Entry.error?_validate] at hmessage
      split at hmessage
      · rename_i hid
        have hfails := InputField.isSome_complaint?_iff.mp hmessage
        exact Or.inr ⟨field, Form.mem_fields_of_findField hfield, hid, hfails.of_values rfl⟩
      · exact Or.inl hmessage

theorem failsAt_of_error?_submit [PatternEngine] {now : Time}
    (hmessage : ((editor.submit now).2.entry.error? name).isSome) :
    (editor.entry.error? name).isSome ∨ editor.form.FailsAt (editor.submit now).2.entry name := by
  have hvalidated (hmessage : ((editor.entry.validateAll editor.form).error? name).isSome) :
      (editor.entry.error? name).isSome ∨ editor.form.FailsAt (editor.entry.validateAll editor.form) name :=
    (Entry.failsAt_of_error?_validateAll hmessage).imp_right fun hfails =>
      hfails.of_values (Entry.values_validateAll editor.entry editor.form).symm
  have hsubmits := editor.submits_submit now
  generalize editor.submit now = result at hsubmits hmessage ⊢
  cases hsubmits with
  | ignored => exact Or.inl hmessage
  | refused | lost => exact hvalidated hmessage
  | added => cases hmessage
  | updated =>
      rw [entry_publishRecord] at hmessage ⊢
      exact hvalidated hmessage

/-- A message that is there after a step was there before it, or the step found a field of the form to fail. -/
theorem failsAt_of_error?_perform [PatternEngine] {operation : Operation} {now : Time}
    (hmessage : ((editor.perform operation now).2.entry.error? name).isSome) :
    (editor.entry.error? name).isSome ∨ editor.form.FailsAt (editor.perform operation now).2.entry name := by
  cases operation with
  | setMode mode => exact Or.inl (error?_startEntry hmessage)
  | pressButton id button =>
      cases button with
      | view => exact Or.inl (error?_openRecord hmessage)
      | update => exact Or.inl (error?_openRecord hmessage)
      | delete =>
          change ((editor.deleteRecord id).2.entry.error? name).isSome at hmessage
          rw [entry_deleteRecord] at hmessage
          exact Or.inl hmessage
  | loadRecords records =>
      obtain ⟨bridge, hnext⟩ := editor.loadRecords_eq records now
      change ((editor.loadRecords records now).entry.error? name).isSome at hmessage
      rw [hnext] at hmessage
      exact Or.inl hmessage
  | setFieldValue fieldId value => exact failsAt_of_error?_setFieldValue hmessage
  | submit => exact failsAt_of_error?_submit hmessage
  | formTextChanged text => exact Or.inl hmessage
  | recordTextChanged text => exact Or.inl hmessage
  | poll =>
      have hentry : (editor.poll now).2.entry = editor.entry := by rw [(reads_poll now).kept]
      change ((editor.poll now).2.entry.error? name).isSome at hmessage
      rw [hentry] at hmessage
      exact Or.inl hmessage
  | settle =>
      have hentry : (editor.settle now).2.2.entry = editor.entry := by rw [(reads_settle now).kept]
      change ((editor.settle now).2.2.entry.error? name).isSome at hmessage
      rw [hentry] at hmessage
      exact Or.inl hmessage
  | setPaletteSearch | dragStart | dragOver | dragLeave | dragEnd | drop | dropOnCanvas | deleteElement
  | duplicateElement | morphElement | moveRow | rename | openMenu | closeOverlay | chooseEntry | openDialog
  | changeDraft | changeDraftType | saveDialog | deleteFromDialog | cancelDialog =>
      exact Or.inl (error?_of_editsForm (editsForm_perform editor now rfl) hmessage)

/-- A message that is there after a run was there at the start, or some step of the run found a field of the form,
as it was then, to fail. -/
theorem failsAt_of_error?_run [PatternEngine] (steps : List (Operation × Time)) :
    ∀ {editor : Editor}, ((editor.run steps).entry.error? name).isSome →
      (editor.entry.error? name).isSome ∨ ∃ before step since, steps = before ++ step :: since ∧
        (editor.run before).form.FailsAt ((editor.run before).perform step.1 step.2).2.entry name := by
  induction steps with
  | nil => exact fun hmessage => Or.inl hmessage
  | cons step steps ih =>
      intro editor hmessage
      rcases ih hmessage with hbefore | ⟨before, found, since, rfl, hfails⟩
      · exact (failsAt_of_error?_perform hbefore).imp_right fun hfails => ⟨[], step, steps, rfl, hfails⟩
      · exact Or.inr ⟨step :: before, found, since, rfl, hfails⟩

/-! ### Submissions -/

/-- A submission that is accepted makes a new record of the entry, or gives its values to the selected record. -/
inductive Accepted (editor : Editor) : List Action → Editor → Prop where
  | added {next : Editor} (hmode : editor.mode = .add)
      (hrecords : next.records = (editor.records.insert editor.entry.values).2) :
      Accepted editor [.recordSubmitted (editor.records.insert editor.entry.values).1] next
  | updated {next : Editor} {id : RecordId} (hmode : editor.mode = .update)
      (hselected : editor.records.selectedId = some id)
      (hupdate : editor.records.update id editor.entry.values = .ok next.records) :
      Accepted editor [.recordUpdated id] next

/-- What a submission is to be. It is refused exactly if a field of the form fails, with the number of these fields
and without a change of the records, and accepted otherwise. -/
structure RefusesFailing [PatternEngine] (editor : Editor) (actions : List Action) (next : Editor) : Prop where
  refused : (∃ count, .validationFailed count ∈ actions) ↔ ∃ field ∈ editor.form.fields, field.Fails editor.entry
  count : ∀ count, .validationFailed count ∈ actions →
    count = (editor.form.failing editor.entry).length ∧ next.records = editor.records
  accepted : (∀ field ∈ editor.form.fields, ¬field.Fails editor.entry) → editor.Accepted actions next

theorem Accepted.validationFailed_not_mem (haccepted : editor.Accepted actions next) (count : Nat) :
    .validationFailed count ∉ actions := by
  cases haccepted <;> simp

/-- To be accepted without fields that fail and refused with their number otherwise is all that is asked. -/
theorem refusesFailing_of_cases [PatternEngine]
    (hrefused : editor.form.failing editor.entry ≠ [] →
      actions = [.validationFailed (editor.form.failing editor.entry).length] ∧ next.records = editor.records)
    (haccepted : editor.form.failing editor.entry = [] → editor.Accepted actions next) :
    editor.RefusesFailing actions next := by
  by_cases hnone : editor.form.failing editor.entry = []
  · have hnever := (haccepted hnone).validationFailed_not_mem
    have hvalid := Form.failing_eq_nil_iff.mp hnone
    refine ⟨⟨?_, ?_⟩, ?_, fun _ => haccepted hnone⟩
    · exact fun ⟨count, hcount⟩ => absurd hcount (hnever count)
    · exact fun ⟨field, hfield, hfails⟩ => absurd hfails (hvalid field hfield)
    · exact fun count hcount => absurd hcount (hnever count)
  · obtain ⟨hactions, hrecords⟩ := hrefused hnone
    have hinvalid : ∃ field ∈ editor.form.fields, field.Fails editor.entry := by
      rw [Form.failing_eq_nil_iff] at hnone
      simpa using hnone
    refine ⟨iff_of_true ⟨_, hactions ▸ List.mem_singleton_self _⟩ hinvalid, ?_, ?_⟩
    · intro count hcount
      rw [hactions] at hcount
      cases List.mem_singleton.mp hcount
      exact ⟨rfl, hrecords⟩
    · exact fun hvalid => absurd (Form.failing_eq_nil_iff.mpr hvalid) hnone

/-- A record is being added, or the selected one updated. -/
def TakesEntry (editor : Editor) : Prop :=
  editor.mode = .add ∨ editor.mode = .update ∧ editor.records.selectedId.isSome

theorem TakesEntry.isEntry (htakes : editor.TakesEntry) : editor.mode.isEntry = true := by
  rcases htakes with hmode | ⟨hmode, -⟩ <;> rw [hmode] <;> rfl

/-- A valid entry for a new record is stored. -/
theorem submit_of_add [PatternEngine] (hmode : editor.mode = .add)
    (hvalid : (editor.entry.validateAll editor.form).hasErrors = false) (now : Time) :
    (editor.submit now).1 = [.recordSubmitted (editor.records.insert editor.entry.values).1] ∧
      (editor.submit now).2.records = (editor.records.insert editor.entry.values).2 := by
  have hsubmits := editor.submits_submit now
  generalize editor.submit now = result at hsubmits ⊢
  cases hsubmits with
  | ignored hother => cases (congrArg ViewMode.isEntry hmode).symm.trans hother
  | refused _ herrors => cases hvalid.symm.trans herrors
  | added => exact ⟨rfl, rfl⟩
  | lost hother | updated hother => cases hmode.symm.trans hother

/-- A valid entry for the selected record is stored in it. -/
theorem submit_of_update [PatternEngine] {id : RecordId} (hmode : editor.mode = .update)
    (hselected : editor.records.selectedId = some id) (hmem : id ∈ editor.records.ids)
    (hvalid : (editor.entry.validateAll editor.form).hasErrors = false) (now : Time) :
    (editor.submit now).1 = [.recordUpdated id] ∧
      editor.records.update id editor.entry.values = .ok (editor.submit now).2.records := by
  have hsubmits := editor.submits_submit now
  generalize editor.submit now = result at hsubmits ⊢
  cases hsubmits with
  | ignored hother => cases (congrArg ViewMode.isEntry hmode).symm.trans hother
  | refused _ herrors => cases hvalid.symm.trans herrors
  | added hother => cases hmode.symm.trans hother
  | lost _ _ hlost => exact absurd hmem (hlost id hselected)
  | updated _ _ hother hupdate =>
      cases hselected.symm.trans hother
      rw [records_publishRecord]
      exact ⟨rfl, hupdate⟩

theorem accepted_submit [PatternEngine] (htakes : editor.TakesEntry) (hpresent : editor.records.SelectionPresent)
    (hvalid : (editor.entry.validateAll editor.form).hasErrors = false) (now : Time) :
    editor.Accepted (editor.submit now).1 (editor.submit now).2 := by
  rcases htakes with hmode | ⟨hmode, hselected⟩
  · obtain ⟨hactions, hrecords⟩ := submit_of_add hmode hvalid now
    rw [hactions]
    exact .added hmode hrecords
  · obtain ⟨id, hid⟩ := Option.isSome_iff_exists.mp hselected
    obtain ⟨hactions, hupdate⟩ := submit_of_update hmode hid (hpresent id hid) hvalid now
    rw [hactions]
    exact .updated hmode hid hupdate

theorem submit_of_hasErrors [PatternEngine] (htakes : editor.TakesEntry)
    (herrors : (editor.entry.validateAll editor.form).hasErrors = true) (now : Time) :
    editor.submit now = ([.validationFailed (editor.entry.validateAll editor.form).errors.size],
      { editor with entry := editor.entry.validateAll editor.form }) := by
  have hsubmits := editor.submits_submit now
  generalize editor.submit now = result at hsubmits ⊢
  cases hsubmits with
  | ignored hmode => exact absurd htakes.isEntry (Bool.eq_false_iff.mp hmode)
  | refused => rfl
  | added _ hvalid | lost _ hvalid | updated _ hvalid => exact absurd herrors (Bool.eq_false_iff.mp hvalid)

/-- **A submission is refused for the fields that fail now and for those that failed before they left.** With any
engine for patterns, it counts both and leaves the records alone; if there are none of either it is accepted.
So it is refused for exactly the fields that fail now if and only if no message is left of a field that the
form does not have any more. Every such message is of a field that failed at some step before, in the form as
it was then. -/
theorem refuses_failing_iff [PatternEngine] (form : Form) (config : EditorConfig) (ids : IdSupply) (started : Time)
    (steps : List (Operation × Time)) (now : Time) :
    let editor := (start form config ids started).run steps
    let failing := editor.form.failing editor.entry
    let orphans := editor.entry.orphans editor.form
    let actions := (editor.submit now).1
    let next := (editor.submit now).2
    editor.TakesEntry → (editor.form.elements.map (·.id)).Nodup →
    (failing ≠ [] ∨ orphans ≠ [] →
      actions = [.validationFailed (failing.length + orphans.length)] ∧ next.records = editor.records) ∧
    (failing = [] → orphans = [] → editor.Accepted actions next) ∧
    (editor.RefusesFailing actions next ↔ orphans = []) ∧
    ∀ name ∈ orphans, ∃ before step since, steps = before ++ step :: since ∧
      let earlier := (start form config ids started).run before
      earlier.form.FailsAt (earlier.perform step.1 step.2).2.entry name := by
  intro editor failing orphans actions next htakes hids
  have hdistinct : (editor.form.fields.map (·.id)).Nodup := hids.sublist editor.form.map_id_fields_sublist
  have hpresent : editor.records.SelectionPresent := ((mirrored_start form config ids started).run steps).present
  have herrors : (editor.entry.validateAll editor.form).hasErrors = true ↔ failing ≠ [] ∨ orphans ≠ [] :=
    Entry.hasErrors_validateAll_iff hdistinct
  have hrefused : failing ≠ [] ∨ orphans ≠ [] →
      actions = [.validationFailed (failing.length + orphans.length)] ∧ next.records = editor.records := by
    intro hfound
    unfold actions next
    rw [submit_of_hasErrors htakes (herrors.mpr hfound), Entry.size_errors_validateAll hdistinct]
    exact ⟨rfl, rfl⟩
  have haccepted : failing = [] → orphans = [] → editor.Accepted actions next := by
    intro hnone hclean
    apply accepted_submit htakes hpresent
    rw [← Bool.not_eq_true, herrors, not_or]
    exact ⟨not_not.mpr hnone, not_not.mpr hclean⟩
  refine ⟨hrefused, haccepted, ⟨?_, ?_⟩, ?_⟩
  · intro hrefuses
    by_contra horphans
    -- the count that is reported is that of the fields that fail, and leaves no room for an orphan
    have hactions := (hrefused (Or.inr horphans)).1
    have hcount := (hrefuses.count _ (hactions ▸ List.mem_singleton_self _)).1
    exact horphans (List.length_eq_zero_iff.mp (Nat.add_eq_left.mp hcount))
  · intro hclean
    refine refusesFailing_of_cases (fun hfound => ?_) (fun hnone => haccepted hnone hclean)
    have hboth := hrefused (Or.inl hfound)
    rw [hclean, List.length_nil, Nat.add_zero] at hboth
    exact hboth
  · intro name horphan
    have hmessage := (Entry.mem_orphans_iff.mp horphan).1
    rcases failsAt_of_error?_run steps hmessage with hstart | hfound
    · cases hstart
    · exact hfound

/-- A form with one field, which asks for an x. -/
def checkedForm : Form :=
  let field : InputField := ⟨.text, ⟨"a", none, none, none, none⟩, "L", none, none, none, some ⟨"x", "no x"⟩⟩
  ⟨⟨"u", "1", "A"⟩, .builtin, [⟨"s", "S", [.single "r" "c" (.input field)]⟩]⟩

/-- A value that does not match is submitted while its field is there. -/
theorem invalid_value_refused :
    let steps : List (Operation × Time) := [(.setMode .add, 0), (.setFieldValue "a" (.string "y"), 0)]
    let editor := (start checkedForm .standard ⟨0⟩ 0).run steps
    let actions := (editor.submit 10).1
    editor.TakesEntry ∧ (editor.form.elements.map (·.id)).Nodup ∧ editor.RefusesFailing actions (editor.submit 10).2 ∧
      actions = [.validationFailed 1] := by
  intro steps editor actions
  have htakes : editor.TakesEntry := Or.inl rfl
  have hids : (editor.form.elements.map (·.id)).Nodup := by decide +kernel
  obtain ⟨-, -, hrefuses, -⟩ := refuses_failing_iff checkedForm .standard ⟨0⟩ 0 steps 10 htakes hids
  exact ⟨htakes, hids, hrefuses.mpr (by decide +kernel), by decide +kernel⟩

/-- **A submission is refused for a field that is not there any more.** Nothing was entered for the field when the
entry was submitted first. Now that it is deleted the form has no field at all, and the entry is still refused. -/
theorem deleted_field_refused :
    let steps : List (Operation × Time) := [(.setMode .add, 0), (.submit, 0), (.deleteElement "a", 0)]
    let editor := (start checkedForm .standard ⟨0⟩ 0).run steps
    editor.mode = .add ∧ (editor.form.elements.map (·.id)).Nodup ∧ editor.form.fields = [] ∧
      (editor.submit 10).1 = [.validationFailed 1] := by
  intro steps
  exact ⟨by decide +kernel, by decide +kernel, by decide +kernel, by decide +kernel⟩

end FormEditor.Editor
