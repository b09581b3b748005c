import FormEditor.Pattern.Standard
import FormEditor.Proofs.CommandLine.Failing
import FormEditor.Proofs.CommandLine.Syncing
import FormEditor.Proofs.Form.Entering
import FormEditor.Proofs.Record.Selection
import FormEditor.Proofs.View.Opened

/-! What a submission stores. The assignments of a command are entered one after another, so the last one for each
field of the form counts, and those for anything else are passed over. The entry starts with no values or with
those of a stored record, and where it is valid all of it is stored. If there is no such record, no entry is made
and nothing is stored. -/

namespace FormEditor

/-! ### Assignments -/

namespace Assignment

/-- The value of the last assignment to a field. -/
def last? (assignments : List Assignment) (fieldId : String) : Option Json :=
  (assignments.filter (·.fieldId = fieldId)).getLast?.map value

theorem last?_concat (assignments : List Assignment) (assignment : Assignment) (fieldId : String) :
    last? (assignments ++ [assignment]) fieldId =
      if assignment.fieldId = fieldId then some assignment.value else last? assignments fieldId := by
  rw [last?, List.filter_append]
  by_cases hsame : assignment.fieldId = fieldId
  · simp [hsame]
  · simp [hsame, last?]

end Assignment

namespace Form

variable {form : Form} {assignments : List Assignment} {name : String}

/-- The value that assignments leave under a name, if the first element that has it for its id is a field. -/
def assigned? (form : Form) (assignments : List Assignment) (name : String) : Option Json :=
  (form.findField name).bind fun _ => Assignment.last? assignments name

/-- Fields after assignments are those that were assigned, and otherwise what they were before. -/
def Takes (form : Form) (assignments : List Assignment) (before after : Dictionary Json) : Prop :=
  ∀ name, after.get? name = (form.assigned? assignments name).or (before.get? name)

/-- Of an entry with the values and without messages, no message comes up when all fields are validated. -/
def Accepts [PatternEngine] (form : Form) (values : Dictionary Json) : Prop :=
  ((⟨values, .empty⟩ : Entry).validateAll form).hasErrors = false

/-- What an assignment enters, if it is to a field of the form. -/
def call? (form : Form) (assignment : Assignment) : Option (InputField × Json) :=
  (form.findField assignment.fieldId).map (·, assignment.value)

def callsOf (form : Form) (assignments : List Assignment) : List (InputField × Json) :=
  assignments.filterMap form.call?

theorem call?_of_none {assignment : Assignment} (hnone : form.findField assignment.fieldId = none) :
    form.call? assignment = none := by
  rw [call?, hnone]
  rfl

theorem call?_of_some {assignment : Assignment} {field : InputField}
    (hfield : form.findField assignment.fieldId = some field) :
    form.call? assignment = some (field, assignment.value) := by
  rw [call?, hfield]
  rfl

theorem mem_fields_of_mem_callsOf {call : InputField × Json} (hcall : call ∈ form.callsOf assignments) :
    call.1 ∈ form.fields := by
  obtain ⟨assignment, -, hcall⟩ := List.mem_filterMap.mp hcall
  obtain ⟨field, hfield, rfl⟩ := Option.map_eq_some_iff.mp hcall
  exact mem_fields_of_findField hfield

theorem callsOf_concat (form : Form) (assignments : List Assignment) (assignment : Assignment) :
    form.callsOf (assignments ++ [assignment]) = form.callsOf assignments ++ (form.call? assignment).toList := by
  rw [callsOf, List.filterMap_append, callsOf]
  cases hcall : form.call? assignment <;> simp [hcall]

theorem assigned?_concat (form : Form) (assignments : List Assignment) (assignment : Assignment) (name : String) :
    form.assigned? (assignments ++ [assignment]) name =
      if assignment.fieldId = name ∧ (form.findField name).isSome then some assignment.value
      else form.assigned? assignments name := by
  rw [assigned?, assigned?, Assignment.last?_concat]
  cases form.findField name <;> simp

/-- The last value that is entered under a name is the last one that was assigned to it as a field. -/
theorem lastValue?_callsOf (form : Form) (assignments : List Assignment) (name : String) :
    Entry.lastValue? (form.callsOf assignments) name = form.assigned? assignments name := by
  induction assignments using List.reverseRecOn with
  | nil =>
      unfold assigned?
      cases form.findField name <;> rfl
  | append_singleton assignments assignment ih =>
      rw [callsOf_concat, assigned?_concat]
      cases hfield : form.findField assignment.fieldId with
      | none =>
          have hother : ¬(assignment.fieldId = name ∧ (form.findField name).isSome) := by
            rintro ⟨rfl, hsome⟩
            rw [hfield] at hsome
            cases hsome
          rw [call?_of_none hfield, if_neg hother, Option.toList_none, List.append_nil]
          exact ih
      | some field =>
          rw [call?_of_some hfield, Option.toList_some, Entry.lastValue?_concat, Editor.id_of_findField hfield, ih]
          by_cases hsame : assignment.fieldId = name
          · have hsome : (form.findField name).isSome := Option.isSome_of_eq_some (hsame ▸ hfield)
            rw [if_pos hsame, if_pos ⟨hsame, hsome⟩]
          · rw [if_neg hsame, if_neg fun hboth => hsame hboth.1]

theorem takes_enterAll [PatternEngine] (form : Form) (assignments : List Assignment) (entry : Entry) :
    form.Takes assignments entry.values (entry.enterAll (form.callsOf assignments)).values := by
  intro name
  rw [← lastValue?_callsOf]
  exact Entry.value?_enterAll ..

/-- Whether assignments are valid is told by the values that they leave: each message is about a field of the form, and
is renewed. -/
theorem Accepts.hasErrors [PatternEngine] {entry : Entry} (hclean : ∀ name, entry.error? name = none)
    (haccepts : form.Accepts (entry.enterAll (form.callsOf assignments)).values) :
    ((entry.enterAll (form.callsOf assignments)).validateAll form).hasErrors = false := by
  rw [← haccepts]
  refine congrArg Entry.hasErrors (Entry.foldl_validate_congr rfl fun name hname => ?_)
  rw [Entry.error?_enterAll, Entry.lastCall?_of_not_mem (fun _ => mem_fields_of_mem_callsOf) hname]
  exact hclean name

end Form

/-! ### Entering assignments -/

/-- The editor after assignments were entered. -/
def Editor.entered [PatternEngine] (editor : Editor) (assignments : List Assignment) : Editor :=
  { editor with entry := editor.entry.enterAll (editor.form.callsOf assignments) }

namespace Workspace

/-- During an entry, values are entered for the fields that there are. -/
theorem enter_of_isEntry [PatternEngine] (assignments : List Assignment) :
    ∀ editor : Editor, editor.mode.isEntry = true →
    enter editor (assignments.map (·.text)) = .ok (editor.entered assignments) := by
  induction assignments with
  | nil => exact fun _ _ => rfl
  | cons assignment assignments ih =>
      intro editor hmode
      rw [List.map_cons, enter, assignment.readAssignment_text]
      show enter (editor.setFieldValue assignment.fieldId assignment.value).2 _ = _
      have henters := editor.enters_setFieldValue assignment.fieldId assignment.value
      generalize editor.setFieldValue assignment.fieldId assignment.value = result at henters ⊢
      cases henters with
      | ignored hmissing =>
          have hmissing : editor.form.findField assignment.fieldId = none :=
            hmissing.resolve_left (by simp [hmode])
          rw [ih editor hmode, Editor.entered, Editor.entered, Form.callsOf, Form.callsOf,
            List.filterMap_cons_none (Form.call?_of_none hmissing)]
      | @entered field _ hfield =>
          rw [Editor.entered, Form.callsOf, List.filterMap_cons_some (Form.call?_of_some hfield)]
          exact ih { editor with entry := editor.entry.setValue field assignment.value } hmode

/-- Otherwise assignments do nothing. -/
theorem enter_of_not_isEntry [PatternEngine] {editor : Editor} (hmode : editor.mode.isEntry = false)
    (assignments : List Assignment) : enter editor (assignments.map (·.text)) = .ok editor := by
  induction assignments with
  | nil => rfl
  | cons assignment assignments ih =>
      have hignored : (editor.setFieldValue assignment.fieldId assignment.value).2 = editor := by
        unfold Editor.setFieldValue
        rw [hmode]
      rw [List.map_cons, enter, assignment.readAssignment_text]
      show enter (editor.setFieldValue assignment.fieldId assignment.value).2 _ = _
      rw [hignored, ih]

end Workspace

/-! ### What is stored -/

/-- The id of a new record: 1 if there are no others, and else one more than the largest. -/
inductive IsNextId : List Record → RecordId → Prop where
  | first : IsNextId [] 1
  | after {records : List Record} {last : Record} {id : RecordId} (hlast : last ∈ records)
      (hlargest : ∀ record ∈ records, record.id ≤ last.id) (hid : id.toNat = last.id.toNat + 1) :
      IsNextId records id

/-- The records after a submission of assignments for a new record or for that of an id. -/
inductive Stores (form : Form) (assignments : List Assignment) (records : List Record) :
    Option RecordId → List Record → Prop where
  | added {id : RecordId} {fields : Dictionary Json} (hid : IsNextId records id)
      (hfields : form.Takes assignments .empty fields) :
      Stores form assignments records none (records ++ [⟨id, fields⟩])
  | updated {id : RecordId} {old : Record} {fields : Dictionary Json} {saved : List Record}
      (hold : records.find? (·.id = id) = some old) (hfields : form.Takes assignments old.fields fields)
      (hsaved : RecordStore.Rewrites id fields records saved) :
      Stores form assignments records (some id) saved
  | unknown {id : RecordId} (hunknown : ∀ record ∈ records, record.id ≠ id) :
      Stores form assignments records (some id) records

namespace RecordStore

variable {store : RecordStore}

theorem isNextId_nextId (hroom : store.HasRoom) : IsNextId store.records store.nextId := by
  cases hmax : store.ids.max? with
  | none =>
      have hnone : store.records = [] := List.map_eq_nil_iff.mp (List.max?_eq_none_iff.mp hmax)
      rw [nextId, hmax, hnone]
      exact .first
  | some largest =>
      obtain ⟨hmem, hle⟩ := List.max?_eq_some_iff.mp hmax
      obtain ⟨last, hlast, rfl⟩ := List.mem_map.mp hmem
      exact .after hlast (fun record hrecord => hle _ (List.mem_map_of_mem hrecord)) (toNat_nextId hroom hmax)

/-- The fields that a submission starts from, if there is anything to start from. -/
def startFields? (store : RecordStore) : Option RecordId → Option (Dictionary Json)
  | none => some .empty
  | some id => (store.get? id).map (·.fields)

end RecordStore

namespace Editor

variable {editor : Editor} {form : Form} {assignments : List Assignment} {record : Option RecordId}
  {records : List Record}

/-- A submission went through and stored the assignments. -/
structure HasStored (form : Form) (assignments : List Assignment) (records : List Record)
    (record : Option RecordId) (done : List Action × Editor) : Prop where
  valid : ∀ count, done.1 ≠ [.validationFailed count]
  kept : done.2.form = form
  stores : Stores form assignments records record done.2.records.records

theorem takes_entered [PatternEngine] (editor : Editor) (assignments : List Assignment) :
    editor.form.Takes assignments editor.entry.values (editor.entered assignments).entry.values :=
  editor.form.takes_enterAll assignments editor.entry

theorem valid_entered [PatternEngine] (hclean : ∀ name, editor.entry.error? name = none)
    (haccepts : ∀ after, editor.form.Takes assignments editor.entry.values after → editor.form.Accepts after) :
    ((editor.entered assignments).entry.validateAll editor.form).hasErrors = false :=
  (haccepts _ (editor.takes_entered assignments)).hasErrors hclean

theorem hasStored_added [PatternEngine] (hmode : editor.mode = .add) (hblank : editor.entry = .blank)
    (hroom : editor.records.HasRoom)
    (haccepts : ∀ after, editor.form.Takes assignments .empty after → editor.form.Accepts after) (now : Time) :
    HasStored editor.form assignments editor.records.records none ((editor.entered assignments).submit now) := by
  have hfields := editor.takes_entered assignments
  have hvalid := @valid_entered editor assignments
  rw [hblank] at hfields hvalid
  have hvalid := hvalid (fun _ => rfl) haccepts
  obtain ⟨hreported, hrecords⟩ := @submit_of_add (editor.entered assignments) _ hmode hvalid now
  refine ⟨?_, ((editor.entered assignments).uses_submit now).form, ?_⟩
  · rw [hreported]
    nofun
  · rw [hrecords]
    exact .added (RecordStore.isNextId_nextId hroom) hfields

theorem hasStored_updated [PatternEngine] {id : RecordId} {old : Record} (hopen : editor.HasOpen id old)
    (hmode : editor.mode = .update)
    (haccepts : ∀ after, editor.form.Takes assignments old.fields after → editor.form.Accepts after) (now : Time) :
    HasStored editor.form assignments editor.records.records (some id)
      ((editor.entered assignments).submit now) := by
  have hfields := editor.takes_entered assignments
  have hvalid := @valid_entered editor assignments
  rw [hopen.entry hmode] at hfields hvalid
  have hvalid := hvalid (fun _ => rfl) haccepts
  have hmem := (RecordStore.isSome_get?_iff id).mp (Option.isSome_of_eq_some hopen.stored)
  obtain ⟨hreported, hupdate⟩ :=
    @submit_of_update (editor.entered assignments) _ id hmode hopen.selectedId hmem hvalid now
  refine ⟨?_, ((editor.entered assignments).uses_submit now).form, ?_⟩
  · rw [hreported]
    nofun
  · exact .updated hopen.stored hfields (RecordStore.rewrites_update hupdate).1

/-! ### Where the entry starts -/

/-- A stored record is opened with its fields if none was selected and nothing had been typed. -/
theorem openRecord_of_unselected {id : RecordId} {old : Record} (hselected : editor.records.selectedId = none)
    (hwaiting : editor.recordBridge.waitingModel? = none) (hold : editor.records.get? id = some old) (now : Time) :
    let opened := (editor.openRecord id .update now).2
    opened.HasOpen id old ∧ opened.mode = .update ∧ opened.form = editor.form ∧
      opened.records.records = editor.records.records := by
  have hmem : id ∈ editor.records.ids := (RecordStore.isSome_get?_iff id).mp (Option.isSome_of_eq_some hold)
  have hother : editor.records.selectedId ≠ some id := by
    rw [hselected]
    nofun
  obtain ⟨settled, store, shown, hsettles, hchosen, hshown, hnext⟩ := openRecord_of_other hmem hother
  have hnothing : ∀ record, editor.recordBridge.waitingModel? = some record → record.id ∉ editor.records.ids := by
    intro record hrecord
    cases hwaiting.symm.trans hrecord
  have hrecords := (hsettles.dropped hnothing).2
  rw [RecordStore.get?, hrecords] at hshown
  cases hold.symm.trans hshown
  have hstored : store.get? id = some old := by
    rw [RecordStore.get?, hrecords]
    exact hold
  rw [hnext]
  exact ⟨hasOpen_setMode hchosen hstored (Or.inr rfl), rfl, rfl, hrecords⟩

theorem openRecord_of_unknown {id : RecordId} (hunknown : editor.records.get? id = none) (mode : ViewMode)
    (now : Time) : (editor.openRecord id mode now).2 = editor := by
  rcases editor.openRecord_cases id mode now with ⟨-, hnext⟩ | ⟨hsome, -⟩
  · rw [hnext]
  · rw [hunknown] at hsome
    cases hsome

end Editor

namespace Workspace

variable {workspace : Workspace} {files : Files} {settings : Settings} {ids : IdSupply} {mode : ViewMode}
  {assignments : List Assignment} {record : Option RecordId} {path : String}

/-- The mode is the one that was asked for, and no record is selected. -/
theorem mode_of_ofFiles (hopen : ofFiles files settings mode ids = .ok workspace) :
    workspace.editor.mode = mode ∧ workspace.editor.records.selectedId = none := by
  obtain ⟨form, rest, heditor | ⟨records, heditor⟩⟩ := editor_of_ofFiles hopen
  · rw [heditor]
    exact ⟨rfl, rfl⟩
  · rw [heditor]
    exact ⟨rfl, rfl⟩

/-- Whatever the assignments leave of the fields that the submission starts from, the form accepts it. -/
def AcceptsAssignments [PatternEngine] (workspace : Workspace) (assignments : List Assignment)
    (record : Option RecordId) : Prop :=
  ∀ before after, workspace.editor.records.startFields? record = some before →
    workspace.editor.form.Takes assignments before after → workspace.editor.form.Accepts after

/-- In a workspace that was just opened, assignments that are accepted are stored. -/
theorem hasStored_entered [PatternEngine] (hopen : ofFiles files settings .editor ids = .ok workspace)
    (hroom : workspace.editor.records.HasRoom) (haccepts : workspace.AcceptsAssignments assignments record) :
    ∃ entered, enter (openEntry workspace.editor record) (assignments.map (·.text)) = .ok entered ∧
      Editor.HasStored workspace.editor.form assignments workspace.editor.records.records record
        (entered.submit 0) := by
  obtain ⟨hmode, hselected⟩ := mode_of_ofFiles hopen
  cases record with
  | none =>
      have haccepts (after) := haccepts .empty after rfl
      refine ⟨_, enter_of_isEntry assignments (workspace.editor.setMode .add).2 rfl, ?_⟩
      exact @Editor.hasStored_added (workspace.editor.setMode .add).2 assignments _ rfl rfl hroom haccepts 0
  | some id =>
      cases hold : workspace.editor.records.get? id with
      | none =>
          have hunknown : openEntry workspace.editor (some id) = workspace.editor :=
            Editor.openRecord_of_unknown hold .update 0
          have hentry : workspace.editor.mode.isEntry = false := by
            rw [hmode]
            rfl
          have hsubmit : workspace.editor.submit 0 = ([], workspace.editor) := by
            rw [Editor.submit, hentry]
            rfl
          rw [hunknown]
          refine ⟨_, enter_of_not_isEntry hentry assignments, ?_⟩
          rw [hsubmit]
          refine ⟨nofun, rfl, .unknown fun other hother => ?_⟩
          simpa using List.find?_eq_none.mp hold other hother
      | some old =>
          have hwaiting : workspace.editor.recordBridge.waitingModel? = none := by
            rw [(isJustOpened_of_ofFiles hopen).record]
            rfl
          obtain ⟨hopened, hupdate, hform, hrecords⟩ := Editor.openRecord_of_unselected hselected hwaiting hold 0
          have hentry := (congrArg ViewMode.isEntry hupdate).trans rfl
          have haccepts (after) := haccepts old.fields after (by rw [RecordStore.startFields?, hold]; rfl)
          rw [← hform] at haccepts
          have hstored := Editor.hasStored_updated hopened hupdate haccepts 0
          rw [hform, hrecords] at hstored
          exact ⟨_, enter_of_isEntry assignments _ hentry, hstored⟩

theorem submit_of_hasStored [PatternEngine] {texts : List String} {entered : Editor} {form : Form}
    {records : List Record}
    (hpath : workspace.recordsPath.isSome) (hentered : enter (openEntry workspace.editor record) texts = .ok entered)
    (hstored : Editor.HasStored form assignments records record (entered.submit 0)) :
    workspace.submit texts record = .ok (workspace.saveActions (entered.submit 0) "nothing submitted") := by
  have hvalid := hstored.valid
  simp only [submit, requireRecords_eq_ok_iff.mpr hpath, hentered, bind, Except.bind]
  split
  · rename_i count next hinvalid
    exact absurd (congrArg Prod.fst hinvalid) (hvalid count)
  · rfl

end Workspace

namespace Invocation

/-- **A submission stores exactly what was assigned.** Take a workspace on any form and records, with an id left for
one more record, and assignments that leave values which the form accepts. Then the command succeeds and saves
the form as it was. Without a record id there is one record more, at the end, with the next id and the last value
for each field of the form that was assigned, and no other; with the id of a stored record it is that record which
takes these values and keeps its others; and with any other id all records stay as they are. -/
theorem submission_stores_assignments [PatternEngine] {files : Files} {settings : Settings} {ids : IdSupply}
    {workspace : Workspace} {path : String} {assignments : List Assignment} {record : Option RecordId}
    (hopen : Workspace.ofFiles files settings .editor ids = .ok workspace) (hpath : settings.recordsPath = some path)
    (hroom : workspace.editor.records.HasRoom) (haccepts : workspace.AcceptsAssignments assignments record) :
    ∃ report saved,
      run ⟨settings, .command (.submit (assignments.map (·.text)) record)⟩ files ids = .ok report ∧
      report.saving = some ⟨settings.formPath, workspace.editor.form, some (path, saved)⟩ ∧
      Stores workspace.editor.form assignments workspace.editor.records.records record saved := by
  obtain ⟨hformPath, hrecordsPath, -⟩ := Workspace.ofFiles_eq_ok hopen
  obtain ⟨entered, hentered, hstored⟩ := Workspace.hasStored_entered hopen hroom haccepts
  have hsome : workspace.recordsPath.isSome := by
    rw [hrecordsPath, hpath]
    rfl
  have hsubmit := Workspace.submit_of_hasStored hsome hentered hstored
  refine ⟨workspace.saveActions (entered.submit 0) "nothing submitted", _, ?_, ?_, hstored.stores⟩
  · show (Workspace.ofFiles files settings .editor ids >>= fun workspace =>
      workspace.submit (assignments.map (·.text)) record) = _
    rw [hopen]
    exact hsubmit
  · show some (⟨workspace.formPath, (entered.submit 0).2.form,
      workspace.recordsPath.map fun path => (path, (entered.submit 0).2.records.records)⟩ : Saving) = _
    rw [hstored.kept, hformPath, hrecordsPath, hpath]
    rfl

/-- Two values for the field of a form, of which the last one is no JSON, and one for something else. -/
theorem last_assignment_stored :
    let texts := ["a=1", "b=2", "a==x"]
    let submission : Invocation := ⟨(submitSeven "a").settings, .command (.submit texts none)⟩
    ∃ report fields, submission.run (oneFieldFolder "a").look ⟨0⟩ = .ok report ∧
      report.saving = some ⟨"form.json", oneFieldForm "a", some ("records.json", [⟨1, fields⟩])⟩ ∧
      fields.get? "a" = some (.string "=x") ∧ fields.get? "b" = none := by
  let one : Assignment := ⟨"a", "1", by decide, by decide⟩
  let other : Assignment := ⟨"b", "2", by decide, by decide⟩
  let last : Assignment := ⟨"a", "=x", by decide, by decide⟩
  have hopen := ofFiles_oneFieldFolder "a"
  have haccepts : (oneFieldWorkspace "a").AcceptsAssignments [one, other, last] none := fun _ _ _ _ => rfl
  obtain ⟨report, saved, hrun, hsaving, hstores⟩ :=
    submission_stores_assignments hopen rfl (by decide +kernel) haccepts
  cases hstores with
  | @added id fields hid hfields =>
      cases hid with
      | after hlast => cases hlast
      | first =>
          refine ⟨report, fields, hrun, hsaving, (hfields "a").trans ?_, (hfields "b").trans ?_⟩
          · decide +kernel
          · decide +kernel

end Invocation

end FormEditor
