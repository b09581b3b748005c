import FormEditor.Pattern.Standard
import FormEditor.Proofs.Editor.Frame

/-! The binding of the entry to a record. Entering UPDATE starts the entry with the values of the selected
record. From then on only the user changes it, so a submission writes back, under every name that was
not entered, what the record held when UPDATE was entered. An edit of the record's text that is read in
between is overwritten. -/

namespace FormEditor.Editor

/-- Whether an operation enters UPDATE and so binds the entry to the selected record. -/
def entersUpdate (editor : Editor) : Operation → Bool
  | .setMode mode => mode = .update
  | .pressButton id .update => (editor.records.get? id).isSome
  | _ => false

/-- Whether UPDATE is entered on a run. -/
def entersUpdateOn [PatternEngine] (editor : Editor) : List (Operation × Time) → Bool
  | [] => false
  | step :: steps =>
    editor.entersUpdate step.1 || (editor.perform step.1 step.2).2.entersUpdateOn steps

/-- The actions that a run reports. -/
def report [PatternEngine] (editor : Editor) : List (Operation × Time) → List Action
  | [] => []
  | step :: steps =>
    (editor.perform step.1 step.2).1 ++ (editor.perform step.1 step.2).2.report steps

theorem report_append [PatternEngine] (before since : List (Operation × Time)) : ∀ editor : Editor,
    editor.report (before ++ since) = editor.report before ++ (editor.run before).report since := by
  induction before with
  | nil => exact fun _ => rfl
  | cons step before ih =>
      intro editor
      rw [List.cons_append, report, ih, report, List.append_assoc]
      rfl

variable {bound editor next : Editor} {actions : List Action}

/-- A run either never enters UPDATE, or it enters it for the last time at some step. -/
theorem last_entry [PatternEngine] (steps : List (Operation × Time)) : ∀ editor : Editor,
    editor.entersUpdateOn steps = false ∨
    ∃ before binding since, steps = before ++ binding :: since ∧
      (editor.run before).entersUpdate binding.1 = true ∧
      ((editor.run before).perform binding.1 binding.2).2.entersUpdateOn since = false := by
  induction steps with
  | nil => exact fun _ => Or.inl rfl
  | cons step steps ih =>
      intro editor
      rcases ih (editor.perform step.1 step.2).2 with hnever | ⟨before, binding, since, rfl, hlast⟩
      · cases henters : editor.entersUpdate step.1 with
        | true => exact Or.inr ⟨[], step, steps, rfl, henters, hnever⟩
        | false => exact Or.inl (by rw [entersUpdateOn, henters, hnever, Bool.or_self])
      · exact Or.inr ⟨step :: before, binding, since, rfl, hlast⟩

/-! ### What stays of a binding -/

/-- The entry has the values of the selected record. -/
def IsBound (editor : Editor) : Prop :=
  ∀ id name, editor.records.selectedId = some id →
    editor.records.value? id name = editor.entry.value? name

/-- What an editor keeps from the time its entry was bound, given the actions since. Under a name that was
not entered the entry has its old value, and so has the record unless its text was read. -/
structure KeepsBinding (bound : Editor) (actions : List Action) (editor : Editor) : Prop where
  entry : ∀ name, .entryChanged name ∉ actions → editor.entry.value? name = bound.entry.value? name
  selected : ∀ id, editor.records.selectedId = some id → bound.records.selectedId = some id
  stored : ∀ id name, editor.records.selectedId = some id → .recordReplaced id ∉ actions →
    .entryChanged name ∉ actions → editor.records.value? id name = bound.entry.value? name

/-- What is not among the actions of two stretches is among neither. -/
theorem unreported_of_append {action : Action} {more : List Action} (hsilent : action ∉ actions ++ more) :
    action ∉ actions ∧ action ∉ more :=
  ⟨fun hmem => hsilent (List.mem_append_left more hmem),
    fun hmem => hsilent (List.mem_append_right actions hmem)⟩

namespace KeepsBinding

theorem refl (hbound : bound.IsBound) : bound.KeepsBinding [] bound :=
  ⟨fun _ _ => rfl, fun _ hselected => hselected, fun id name hselected _ _ => hbound id name hselected⟩

/-- A step that leaves the entry and the selected record alone makes no difference. -/
theorem of_same (hkeeps : bound.KeepsBinding actions editor) (more : List Action)
    (hentry : next.entry.values = editor.entry.values)
    (hrecords : ∀ id, next.records.selectedId = some id → editor.records.selectedId = some id ∧
      ∀ name, next.records.value? id name = editor.records.value? id name) :
    bound.KeepsBinding (actions ++ more) next := by
  refine ⟨?_, ?_, ?_⟩
  · intro name hsilent
    rw [Entry.value?, hentry]
    exact hkeeps.entry name (unreported_of_append hsilent).1
  · intro id hselected
    exact hkeeps.selected id (hrecords id hselected).1
  · intro id name hselected hunread hsilent
    rw [(hrecords id hselected).2 name]
    exact hkeeps.stored id name (hrecords id hselected).1 (unreported_of_append hunread).1
      (unreported_of_append hsilent).1

theorem of_eq (hkeeps : bound.KeepsBinding actions editor) (more : List Action)
    (hentry : next.entry = editor.entry) (hrecords : next.records = editor.records) :
    bound.KeepsBinding (actions ++ more) next :=
  hkeeps.of_same more (congrArg (·.values) hentry)
    (fun _ hselected => ⟨hrecords ▸ hselected, fun _ => hrecords ▸ rfl⟩)

/-- The record takes the values of the entry. -/
theorem of_update (hkeeps : bound.KeepsBinding actions editor) (more : List Action)
    (hentry : next.entry.values = editor.entry.values) {id : RecordId}
    (hselected : editor.records.selectedId = some id)
    (hupdate : editor.records.update id editor.entry.values = .ok next.records) :
    bound.KeepsBinding (actions ++ more) next := by
  have hselection : next.records.selectedId = some id := by
    obtain ⟨-, hnext⟩ := RecordStore.update_eq_ok hupdate
    rw [hnext]
    exact hselected
  refine ⟨?_, ?_, ?_⟩
  · intro name hsilent
    rw [Entry.value?, hentry]
    exact hkeeps.entry name (unreported_of_append hsilent).1
  · intro other hother
    cases hselection.symm.trans hother
    exact hkeeps.selected id hselected
  · intro other name hother _ hsilent
    cases hselection.symm.trans hother
    rw [RecordStore.value?_update hupdate]
    exact hkeeps.entry name (unreported_of_append hsilent).1

/-- A record takes the values of its text, which is reported. -/
theorem adoptOutcome (hkeeps : bound.KeepsBinding actions editor) (outcome : SyncOutcome Record) :
    bound.KeepsBinding (actions ++ (editor.adoptOutcome outcome).1) (editor.adoptOutcome outcome).2 := by
  cases outcome with
  | idle | pushed | rejected => exact hkeeps.of_eq _ rfl rfl
  | applied record =>
      cases hreplace : editor.records.replace record with
      | error cause =>
          simp only [Editor.adoptOutcome, adoptRecord, hreplace]
          exact hkeeps.of_eq _ rfl rfl
      | ok store =>
          simp only [Editor.adoptOutcome, adoptRecord, hreplace, Option.toList_some]
          obtain ⟨-, hstore⟩ := RecordStore.update_eq_ok hreplace
          refine ⟨fun name hsilent => hkeeps.entry name (unreported_of_append hsilent).1, ?_, ?_⟩
          · intro id hselected
            rw [hstore] at hselected
            exact hkeeps.selected id hselected
          · intro id name hselected hunread hsilent
            obtain ⟨hbefore, hnow⟩ := unreported_of_append hunread
            have hother : id ≠ record.id := fun heq => hnow (by rw [heq]; exact List.mem_singleton_self _)
            rw [RecordStore.value?_update_of_ne hreplace hother]
            rw [hstore] at hselected
            exact hkeeps.stored id name hselected hbefore (unreported_of_append hsilent).1

theorem pollForm (hkeeps : bound.KeepsBinding actions editor) (now : Time) :
    bound.KeepsBinding (actions ++ (editor.pollForm now).1) (editor.pollForm now).2 := by
  unfold Editor.pollForm
  split <;> exact hkeeps.of_eq _ rfl rfl

theorem pollRecord (hkeeps : bound.KeepsBinding actions editor) (now : Time) :
    bound.KeepsBinding (actions ++ (editor.pollRecord now).1) (editor.pollRecord now).2 := by
  have hpolled : bound.KeepsBinding actions
      { editor with recordBridge := (editor.recordBridge.poll now).2 } :=
    ⟨hkeeps.entry, hkeeps.selected, hkeeps.stored⟩
  exact hpolled.adoptOutcome (editor.recordBridge.poll now).1

theorem poll (hkeeps : bound.KeepsBinding actions editor) (now : Time) :
    bound.KeepsBinding (actions ++ (editor.poll now).1) (editor.poll now).2 := by
  have hnext := (hkeeps.pollForm now).pollRecord now
  rw [List.append_assoc] at hnext
  exact hnext

end KeepsBinding

/-! ### Binding -/

theorem isBound_of_entry (hentry : editor.entry = (editor.records.selected.map Entry.ofRecord).getD .blank) :
    editor.IsBound := by
  intro id name hselected
  rw [RecordStore.value?_of_selectedId hselected, hentry]
  cases editor.records.selected with
  | none => rfl
  | some record => rfl

/-- A record that is there is shown in the mode that was asked for; nothing happens to the others. -/
theorem openRecord_cases (editor : Editor) (id : RecordId) (mode : ViewMode) (now : Time) :
    (editor.records.get? id = none ∧ editor.openRecord id mode now = ([], editor)) ∨
    ((editor.records.get? id).isSome = true ∧ ∃ shown : Editor,
      (editor.openRecord id mode now).2 = (shown.setMode mode).2) := by
  have hopens := editor.opens_openRecord id mode now
  generalize editor.openRecord id mode now = result at hopens ⊢
  cases hopens with
  | missing hmissing => exact Or.inl ⟨hmissing, rfl⟩
  | again hselect | switched hselect =>
      obtain ⟨hfound, -⟩ := RecordStore.select_eq_ok hselect
      exact Or.inr ⟨Option.isSome_of_eq_some hfound, _, rfl⟩

/-- Entering UPDATE binds the entry to the record that is selected then. -/
theorem entry_of_entersUpdate [PatternEngine] {operation : Operation} (henters : editor.entersUpdate operation = true)
    (now : Time) :
    (editor.perform operation now).2.mode = .update ∧
    (editor.perform operation now).2.entry =
      ((editor.perform operation now).2.records.selected.map Entry.ofRecord).getD .blank := by
  unfold entersUpdate at henters
  split at henters
  · cases of_decide_eq_true henters
    exact ⟨rfl, rfl⟩
  · rename_i id
    rcases editor.openRecord_cases id .update now with ⟨hnone, -⟩ | ⟨-, shown, hnext⟩
    · rw [hnone] at henters
      cases henters
    · change (editor.openRecord id .update now).2.mode = _ ∧ (editor.openRecord id .update now).2.entry =
        ((editor.openRecord id .update now).2.records.selected.map _).getD _
      rw [hnext]
      exact ⟨rfl, rfl⟩
  · cases henters

/-! ### Steps that do not bind -/

theorem id_of_findField {form : Form} {fieldId : String} {field : InputField}
    (hfield : form.findField fieldId = some field) : field.id = fieldId := by
  obtain ⟨element, helement, hinput⟩ := Option.bind_eq_some_iff.mp hfield
  have hid : element.id = fieldId := by simpa using List.find?_some helement
  cases element with
  | display block => cases hinput
  | input other =>
      cases hinput
      exact hid

/-- A submission in UPDATE leaves the values that were entered. It is refused, or the selected record takes
them. -/
theorem submit_cases [PatternEngine] (hmode : editor.mode = .update) (now : Time) :
    (editor.submit now).2.entry.values = editor.entry.values ∧
    (((∀ id, .recordUpdated id ∉ (editor.submit now).1) ∧
        (editor.submit now).2.records = editor.records) ∨
      ∃ id, editor.records.selectedId = some id ∧ (editor.submit now).1 = [.recordUpdated id] ∧
        editor.records.update id editor.entry.values = .ok (editor.submit now).2.records) := by
  have hvalues := Entry.values_validateAll editor.entry editor.form
  have hsubmits := editor.submits_submit now
  generalize editor.submit now = result at hsubmits ⊢
  cases hsubmits with
  | ignored hother =>
      rw [hmode] at hother
      cases hother
  | refused | lost => exact ⟨hvalues, Or.inl ⟨fun id => by simp, rfl⟩⟩
  | added hadd => cases hmode.symm.trans hadd
  | @updated id _ _ _ hselected hupdate =>
      simp only [entry_publishRecord, records_publishRecord]
      exact ⟨hvalues, Or.inr ⟨id, hselected, rfl, hupdate⟩⟩

/-- Only in UPDATE a record is updated. -/
theorem mode_of_recordUpdated [PatternEngine] {id : RecordId} {now : Time}
    (hupdated : .recordUpdated id ∈ (editor.submit now).1) : editor.mode = .update := by
  have hsubmits := editor.submits_submit now
  generalize editor.submit now = result at hsubmits hupdated
  cases hsubmits with
  | ignored | lost => cases hupdated
  | refused | added => cases List.mem_singleton.mp hupdated
  | updated hmode => exact hmode

theorem mode_setFieldValue [PatternEngine] (editor : Editor) (fieldId : String) (value : Json) :
    (editor.setFieldValue fieldId value).2.mode = editor.mode := by
  have henters := editor.enters_setFieldValue fieldId value
  generalize editor.setFieldValue fieldId value = result at henters ⊢
  cases henters <;> rfl

theorem mode_poll (editor : Editor) (now : Time) : (editor.poll now).2.mode = editor.mode := by
  obtain ⟨records, bridge, hnext⟩ := (editor.pollForm now).2.pollRecord_eq now
  change ((editor.pollForm now).2.pollRecord now).2.mode = editor.mode
  rw [hnext]
  unfold pollForm
  split <;> rfl

theorem mode_settle (editor : Editor) (now : Time) : (editor.settle now).2.2.mode = editor.mode :=
  @settle_keeps (fun next => next.mode = editor.mode) (fun now hmode => (mode_poll _ now).trans hmode)
    editor now rfl

theorem mode_submit [PatternEngine] (editor : Editor) (now : Time) : (editor.submit now).2.mode = editor.mode := by
  have hsubmits := editor.submits_submit now
  generalize editor.submit now = result at hsubmits ⊢
  cases hsubmits with
  | ignored | refused | added | lost => rfl
  | updated => exact mode_publishRecord _ now

namespace KeepsBinding

theorem setFieldValue [PatternEngine] (hkeeps : bound.KeepsBinding actions editor) (fieldId : String) (value : Json) :
    bound.KeepsBinding (actions ++ (editor.setFieldValue fieldId value).1.toList)
      (editor.setFieldValue fieldId value).2 := by
  have henters := editor.enters_setFieldValue fieldId value
  generalize editor.setFieldValue fieldId value = result at henters ⊢
  cases henters with
  | ignored => exact hkeeps.of_eq [] rfl rfl
  | @entered field _ hfield =>
      refine ⟨?_, hkeeps.selected, ?_⟩
      · intro name hsilent
        obtain ⟨hbefore, hnow⟩ := unreported_of_append hsilent
        have hother : ¬field.id = name := by
          rw [id_of_findField hfield]
          exact fun heq => hnow (by rw [heq]; exact List.mem_singleton_self _)
        change (editor.entry.values.insert field.id value).get? name = _
        rw [Dictionary.get?_insert, if_neg hother]
        exact hkeeps.entry name hbefore
      · intro id name hselected hunread hsilent
        exact hkeeps.stored id name hselected (unreported_of_append hunread).1 (unreported_of_append hsilent).1

theorem submit [PatternEngine] (hkeeps : bound.KeepsBinding actions editor) (hmode : editor.mode = .update)
    (now : Time) :
    bound.KeepsBinding (actions ++ (editor.submit now).1) (editor.submit now).2 := by
  obtain ⟨hvalues, ⟨-, hrecords⟩ | ⟨id, hselected, -, hupdate⟩⟩ := submit_cases hmode now
  · exact hkeeps.of_same _ hvalues (fun _ hselected => ⟨hrecords ▸ hselected, fun _ => hrecords ▸ rfl⟩)
  · exact hkeeps.of_update _ hvalues hselected hupdate

theorem deleteRecord (hkeeps : editor.mode = .update → bound.KeepsBinding actions editor) (id : RecordId)
    (hmode : (editor.deleteRecord id).2.mode = .update) :
    bound.KeepsBinding (actions ++ (editor.deleteRecord id).1) (editor.deleteRecord id).2 := by
  have hremoves := editor.removes_deleteRecord id
  generalize editor.deleteRecord id = result at hremoves hmode ⊢
  cases hremoves with
  | missing => exact (hkeeps hmode).of_eq [] rfl rfl
  | closed => cases hmode
  | removed hdelete =>
      exact (hkeeps hmode).of_same _ rfl (fun other hother => RecordStore.value?_delete hdelete hother)

/-- A record that is opened in another mode ends the binding. -/
theorem openRecord (hkeeps : editor.mode = .update → bound.KeepsBinding actions editor) (id : RecordId)
    (mode : ViewMode) (now : Time) (hstays : (editor.records.get? id).isSome = true → mode ≠ .update)
    (hmode : (editor.openRecord id mode now).2.mode = .update) :
    bound.KeepsBinding (actions ++ (editor.openRecord id mode now).1) (editor.openRecord id mode now).2 := by
  rcases editor.openRecord_cases id mode now with ⟨-, hnext⟩ | ⟨hsome, shown, hnext⟩
  · rw [hnext] at hmode ⊢
    exact (hkeeps hmode).of_eq [] rfl rfl
  · rw [hnext] at hmode
    exact absurd hmode (hstays hsome)

theorem of_editsForm (hkeeps : editor.mode = .update → bound.KeepsBinding actions editor) {now : Time}
    (hedits : editor.EditsForm now next) (hmode : next.mode = .update) (more : List Action) :
    bound.KeepsBinding (actions ++ more) next :=
  (hkeeps (hedits.mode.symm.trans hmode)).of_eq more hedits.entry hedits.records

/-- A step that does not enter UPDATE keeps the binding as long as the mode is UPDATE. -/
theorem perform [PatternEngine] (hkeeps : editor.mode = .update → bound.KeepsBinding actions editor)
    {operation : Operation} (now : Time) (hstays : editor.entersUpdate operation = false)
    (hmode : (editor.perform operation now).2.mode = .update) :
    bound.KeepsBinding (actions ++ (editor.perform operation now).1) (editor.perform operation now).2 := by
  cases operation with
  | setMode mode => exact absurd hmode (of_decide_eq_false hstays)
  | pressButton id button =>
      cases button with
      | view => exact openRecord hkeeps id .view now (fun _ => nofun) hmode
      | update =>
          have habsent : ¬(editor.records.get? id).isSome = true := Bool.eq_false_iff.mp hstays
          exact openRecord hkeeps id .update now (fun hsome => absurd hsome habsent) hmode
      | delete => exact deleteRecord hkeeps id hmode
  | loadRecords records =>
      obtain ⟨bridge, hnext⟩ := editor.loadRecords_eq records now
      change (editor.loadRecords records now).mode = _ at hmode
      change bound.KeepsBinding (actions ++ []) (editor.loadRecords records now)
      rw [hnext] at hmode ⊢
      exact (hkeeps hmode).of_same [] rfl nofun
  | setFieldValue fieldId value =>
      have hbefore : editor.mode = .update := (mode_setFieldValue editor fieldId value).symm.trans hmode
      exact (hkeeps hbefore).setFieldValue fieldId value
  | submit =>
      have hbefore : editor.mode = .update := (mode_submit editor now).symm.trans hmode
      exact (hkeeps hbefore).submit hbefore now
  | formTextChanged text => exact (hkeeps hmode).of_eq [] rfl rfl
  | recordTextChanged text => exact (hkeeps hmode).of_eq [] rfl rfl
  | poll => exact (hkeeps ((mode_poll editor now).symm.trans hmode)).poll now
  | settle =>
      have hbefore : editor.mode = .update := (mode_settle editor now).symm.trans hmode
      exact @settle_reports bound.KeepsBinding (fun now hkept => hkept.poll now) actions editor now
        (hkeeps hbefore)
  | setPaletteSearch | dragStart | dragOver | dragLeave | dragEnd | drop | dropOnCanvas | deleteElement
  | duplicateElement | morphElement | moveRow | rename | openMenu | closeOverlay | chooseEntry | openDialog
  | changeDraft | changeDraftType | saveDialog | deleteFromDialog | cancelDialog =>
      exact of_editsForm hkeeps (editsForm_perform editor now rfl) hmode _

/-- As long as UPDATE is not entered anew, a run that ends in UPDATE keeps the binding. -/
theorem run [PatternEngine] (steps : List (Operation × Time)) :
    ∀ {editor : Editor} {actions : List Action},
      (editor.mode = .update → bound.KeepsBinding actions editor) →
      editor.entersUpdateOn steps = false → (editor.run steps).mode = .update →
      bound.KeepsBinding (actions ++ editor.report steps) (editor.run steps) := by
  induction steps with
  | nil =>
      intro editor actions hkeeps _ hmode
      exact (hkeeps hmode).of_eq [] rfl rfl
  | cons step steps ih =>
      intro editor actions hkeeps hstays hmode
      obtain ⟨hfirst, hrest⟩ := Bool.or_eq_false_iff.mp hstays
      rw [report, ← List.append_assoc]
      exact ih (perform hkeeps step.2 hfirst) hrest hmode

end KeepsBinding

/-- **A submission in UPDATE writes back what the entry was bound to.** Whenever a run submits the entry to a
record, the run entered UPDATE before, and when it last did so the entry became that of the record. Under
every name that was not entered since then, the record has after the submission the value, or the
absence, that it had at that time. This is also what the store held for it immediately before the submission,
unless the text of the record was read since then. -/
theorem update_writes_back_binding [PatternEngine] (form : Form) (config : EditorConfig) (ids : IdSupply)
    (started : Time) (steps : List (Operation × Time)) (now : Time) {id : RecordId} :
    let editor := (start form config ids started).run steps
    let after := (editor.submit now).2
    .recordUpdated id ∈ (editor.submit now).1 →
    ∃ before binding since record, steps = before ++ binding :: since ∧
      let unbound := (start form config ids started).run before
      let bound := (unbound.perform binding.1 binding.2).2
      unbound.entersUpdate binding.1 = true ∧ bound.entersUpdateOn since = false ∧
      record.id = id ∧ bound.records.selected = some record ∧ bound.entry = .ofRecord record ∧
      ∀ name, .entryChanged name ∉ bound.report since →
        after.records.value? id name = record.fields.get? name ∧
        (.recordReplaced id ∉ bound.report since →
          after.records.value? id name = editor.records.value? id name) := by
  intro editor after hupdated
  have hmode : editor.mode = .update := mode_of_recordUpdated hupdated
  obtain ⟨-, ⟨hrefused, -⟩ | ⟨selected, hselected, hreport, hstored⟩⟩ := submit_cases hmode now
  · exact absurd hupdated (hrefused id)
  rw [hreport] at hupdated
  cases List.mem_singleton.mp hupdated
  rcases last_entry steps (start form config ids started) with
    hnever | ⟨before, binding, since, rfl, henters, hlast⟩
  · -- without records nothing is selected at the start
    have hstart : (start form config ids started).IsBound := nofun
    have hkeeps := KeepsBinding.run steps (fun _ => .refl hstart) hnever hmode
    cases hkeeps.selected id hselected
  · have hmirrored := ((mirrored_start form config ids started).run before).perform binding.1 binding.2
    obtain ⟨-, hentry⟩ := entry_of_entersUpdate henters binding.2
    have heditor : editor = (((start form config ids started).run before).perform binding.1 binding.2).2.run
        since := run_append _ before (binding :: since)
    rw [heditor] at hmode
    have hkeeps := KeepsBinding.run since (fun _ => .refl (isBound_of_entry hentry)) hlast hmode
    rw [← heditor] at hkeeps
    have hbound := hkeeps.selected id hselected
    obtain ⟨record, hrecord⟩ :=
      Option.isSome_iff_exists.mp (RecordStore.isSome_selected hmirrored.present hbound)
    rw [hrecord] at hentry
    refine ⟨before, binding, since, record, rfl, henters, hlast, ?_, hrecord, hentry, ?_⟩
    · rw [RecordStore.selected, hbound, Option.bind_some, RecordStore.get?] at hrecord
      simpa using List.find?_some hrecord
    · intro name hsilent
      have hbefore : editor.entry.value? name = record.fields.get? name :=
        (hkeeps.entry name hsilent).trans (by rw [hentry]; rfl)
      have hafter : after.records.value? id name = record.fields.get? name :=
        (RecordStore.value?_update hstored name).trans hbefore
      refine ⟨hafter, fun hunread => ?_⟩
      have hkept := hkeeps.stored id name hselected hunread hsilent
      rw [hafter, hkept, hentry]
      rfl

/-- A record with one value. -/
def shortRecord : Record :=
  ⟨1, .ofList [("a", .string "x")]⟩

/-- The text of that record with another value. -/
def otherRecordText : String :=
  "\x7b\"id\":1,\"a\":\"y\"\x7d"

/-- A submission before the typed text is read. -/
theorem unread_text_not_submitted :
    let config : EditorConfig := { EditorConfig.standard with modelDebounce := 100 }
    let steps : List (Operation × Time) := [(.loadRecords [shortRecord], 0), (.pressButton 1 .update, 0),
      (.recordTextChanged otherRecordText, 0)]
    let editor := (start (.blank "u") config ⟨0⟩ 0).run steps
    let after := (editor.submit 10).2
    .recordUpdated 1 ∈ (editor.submit 10).1 ∧
    after.records.value? 1 "a" = editor.records.value? 1 "a" := by
  intro config steps
  have hupdated : .recordUpdated 1 ∈ (((start (.blank "u") config ⟨0⟩ 0).run steps).submit 10).1 := by
    decide +kernel
  have hsilent : .entryChanged "a" ∉ (start (.blank "u") config ⟨0⟩ 0).report steps := by decide +kernel
  have hunread : .recordReplaced 1 ∉ (start (.blank "u") config ⟨0⟩ 0).report steps := by decide +kernel
  obtain ⟨before, binding, since, record, hsteps, -, -, -, -, -, hvalues⟩ :=
    update_writes_back_binding (.blank "u") config ⟨0⟩ 0 steps 10 hupdated
  rw [hsteps, report_append, report] at hsilent hunread
  exact ⟨hupdated, (hvalues "a" (fun hmem => hsilent (by simp [hmem]))).2 (fun hmem => hunread (by simp [hmem]))⟩

/-- **An edit of the text of a record is undone by the submission of its entry.** UPDATE is entered for a
record whose text was changed but not read yet. Once it is read the record has the new value, and the
submission, in which nothing was entered, brings the old one back. -/
theorem edit_overwritten_by_submission :
    let config : EditorConfig := { EditorConfig.standard with modelDebounce := 100 }
    let steps : List (Operation × Time) := [(.loadRecords [shortRecord], 0), (.pressButton 1 .update, 0),
      (.recordTextChanged otherRecordText, 0), (.pressButton 1 .update, 100), (.settle, 100)]
    let editor := (start (.blank "u") config ⟨0⟩ 0).run steps
    let after := (editor.submit 1000).2
    (editor.submit 1000).1 = [.recordUpdated 1] ∧
    .entryChanged "a" ∉ (start (.blank "u") config ⟨0⟩ 0).report steps ∧
    editor.records.value? 1 "a" = some (.string "y") ∧
    after.records.value? 1 "a" = some (.string "x") := by
  intro config steps
  exact ⟨by decide +kernel, by decide +kernel, by decide +kernel, by decide +kernel⟩

end FormEditor.Editor
