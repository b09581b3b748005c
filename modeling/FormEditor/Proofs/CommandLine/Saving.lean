import FormEditor.CommandLine.Run
import FormEditor.Proofs.Editor.Sound

/-! What commands save. A command starts an editor on its files and uses it, so what it saves comes from a run
of the editor: the form is sound, and the values of the records are free-form. -/

namespace FormEditor

/-- The records that are saved. -/
def Saving.recordList (saving : Saving) : List Record :=
  saving.records.elim [] (·.2)

theorem Saving.recordList_of_none {saving : Saving} (hnone : saving.records = none) :
    saving.recordList = [] := by
  rw [recordList, hnone, Option.elim_none]

theorem Saving.recordList_of_some {saving : Saving} {path : String} {records : List Record}
    (hsome : saving.records = some (path, records)) : saving.recordList = records := by
  rw [recordList, hsome, Option.elim_some]

/-- What an editor may hold: a sound form, and records with free-form values. -/
structure Saving.IsSound (saving : Saving) : Prop where
  form : saving.form.IsSound
  records : ∀ record ∈ saving.recordList, record.IsFreeForm

theorem Json.isFreeForm_ofAssigned (text : String) : (ofAssigned text).IsFreeForm := by
  unfold ofAssigned
  cases hread : decodeText (Node.json 0) text with
  | error fault => exact ⟨0, .string text⟩
  | ok value =>
      have hensures : Decoder.Ensures (Node.json 0) (Fits Node.maxDepth) := fun _ _ => fits_of_json
      exact ⟨_, decodeText_ensures hensures hread⟩

theorem isFreeForm_of_readAssignment {text fieldId : String} {value : Json}
    (hread : readAssignment text = .ok (fieldId, value)) : value.IsFreeForm := by
  unfold readAssignment at hread
  split at hread
  · split at hread
    · cases hread
    · cases hread
      exact Json.isFreeForm_ofAssigned _
  · cases hread

namespace Workspace

variable {workspace : Workspace} {files : Files}

/-- The editor is one that holds sound things. -/
structure IsSound (workspace : Workspace) : Prop where
  form : workspace.editor.HasSoundForm
  values : workspace.editor.HasFreeFormValues

/-! ### Starting -/

theorem isSound_of_readForm {path : String} {ids rest : IdSupply} {form : Form}
    (hread : readForm files path ids = .ok (form, rest)) : form.IsSound := by
  obtain ⟨content, -, hread⟩ := eq_ok_of_bind hread
  cases content with
  | none =>
      cases hread
      exact Form.isSound_blank _
  | some text =>
      simp only at hread
      split at hread
      · rename_i hform
        cases hread
        exact Form.isSound_of_ofText hform
      · cases hread

theorem isFreeForm_of_readRecords {path : String} {records : List Record}
    (hread : readRecords files path = .ok records) : ∀ record ∈ records, record.IsFreeForm := by
  obtain ⟨content, -, hread⟩ := eq_ok_of_bind hread
  cases content with
  | none =>
      cases hread
      exact fun record hrecord => absurd hrecord List.not_mem_nil
  | some text =>
      cases hrecords : Record.listOfText text with
      | error fault =>
          simp only [hrecords] at hread
          cases hread
      | ok read =>
          simp only [hrecords] at hread
          cases hread
          exact Record.isFreeForm_of_listOfText hrecords

theorem ofFiles_eq_ok {settings : Settings} {mode : ViewMode} {ids : IdSupply}
    (hopen : ofFiles files settings mode ids = .ok workspace) :
    workspace.formPath = settings.formPath ∧ workspace.recordsPath = settings.recordsPath ∧
      workspace.IsSound := by
  obtain ⟨⟨form, rest⟩, hform, hopen⟩ := eq_ok_of_bind hopen
  have hsound := Editor.HasSoundForm.start (isSound_of_readForm hform) (settings.config mode) rest 0
  have hfree := Editor.HasFreeFormValues.start form (settings.config mode) rest 0
  simp only at hopen
  split at hopen
  · cases hopen
    exact ⟨rfl, rfl, hsound, hfree⟩
  · obtain ⟨records, hrecords, hopen⟩ := eq_ok_of_bind hopen
    cases hopen
    have hbrings : (Operation.loadRecords records).IsFreeForm := isFreeForm_of_readRecords hrecords
    exact ⟨rfl, rfl, hsound.perform (.loadRecords records) 0, hfree.perform hbrings 0⟩

end Workspace

/-! ### Commands are runs of the editor -/

/-- An editor that another one becomes in a run that brings in free-form values only. -/
def Editor.RunsTo [PatternEngine] (editor next : Editor) : Prop :=
  ∃ steps, (∀ step ∈ steps, step.1.IsFreeForm) ∧ next = editor.run steps

namespace Editor.RunsTo

variable {editor next : Editor}

theorem refl [PatternEngine] (editor : Editor) : editor.RunsTo editor :=
  ⟨[], fun _ hstep => absurd hstep List.not_mem_nil, rfl⟩

theorem perform [PatternEngine] (hruns : editor.RunsTo next) (operation : Operation) (hbrings : operation.IsFreeForm)
    (now : Time) : editor.RunsTo (next.perform operation now).2 := by
  obtain ⟨steps, hsteps, rfl⟩ := hruns
  refine ⟨steps ++ [(operation, now)], ?_, ?_⟩
  · intro step hstep
    rcases List.mem_append.mp hstep with hbefore | hlast
    · exact hsteps step hbefore
    · rw [List.mem_singleton.mp hlast]
      exact hbrings
  · exact (run_append editor steps [(operation, now)]).symm

theorem dragOver [PatternEngine] (hruns : editor.RunsTo next) (zone : DropZone) : editor.RunsTo (next.dragOver zone) :=
  hruns.perform (.dragOver zone) trivial 0

theorem drop [PatternEngine] (hruns : editor.RunsTo next) (zone : DropZone) (data : TransferData) (now : Time) :
    editor.RunsTo (next.drop zone data now).2 :=
  hruns.perform (.drop zone data) trivial now

theorem dropOnCanvas [PatternEngine] (hruns : editor.RunsTo next) (data : TransferData) (now : Time) :
    editor.RunsTo (next.dropOnCanvas data now).2 :=
  hruns.perform (.dropOnCanvas data) trivial now

theorem settle [PatternEngine] (hruns : editor.RunsTo next) (now : Time) : editor.RunsTo (next.settle now).2.2 :=
  hruns.perform .settle trivial now

theorem enter [PatternEngine] (texts : List String) : ∀ {next entered : Editor}, editor.RunsTo next →
    Workspace.enter next texts = .ok entered → editor.RunsTo entered := by
  induction texts with
  | nil =>
      rintro next _ hruns ⟨rfl⟩
      exact hruns
  | cons text texts ih =>
      intro next entered hruns hentered
      obtain ⟨⟨fieldId, value⟩, hread, hentered⟩ := eq_ok_of_bind hentered
      have hvalue : value.IsFreeForm := isFreeForm_of_readAssignment hread
      exact ih (hruns.perform (.setFieldValue fieldId value) hvalue 0) hentered

end Editor.RunsTo

namespace Workspace

variable {workspace : Workspace} {files : Files} {report : Report} {saving : Saving}

/-- What is saved after a run of the editor. -/
def SavesRun [PatternEngine] (workspace : Workspace) (saving : Saving) : Prop :=
  ∃ editor, workspace.editor.RunsTo editor ∧ saving = (workspace.withEditor editor).saving

theorem savesRun_of_saveActions [PatternEngine] {done : List Action × Editor} {nothing : String}
    (hruns : workspace.editor.RunsTo done.2)
    (hsaving : (workspace.saveActions done nothing).saving = some saving) : workspace.SavesRun saving := by
  cases hsaving
  exact ⟨done.2, hruns, rfl⟩

theorem savesRun_of_saveResult [PatternEngine] {done : Except EditError (List Action) × Editor} {nothing : String}
    (hruns : workspace.editor.RunsTo done.2) (hrun : workspace.saveResult done nothing = .ok report)
    (hsaving : report.saving = some saving) : workspace.SavesRun saving := by
  unfold saveResult at hrun
  split at hrun
  · cases hrun
    exact savesRun_of_saveActions hruns hsaving
  · cases hrun

theorem savesRun_of_syncForm [PatternEngine] {text : String}
    (hsaving : (workspace.syncForm text).saving = some saving) :
    workspace.SavesRun saving := by
  have htyped := (Editor.RunsTo.refl workspace.editor).perform (.formTextChanged text) trivial 0
  have hruns := htyped.settle 0
  unfold syncForm at hsaving
  simp only at hsaving
  split at hsaving
  · cases hsaving
    exact ⟨_, hruns, rfl⟩
  · cases hsaving

theorem savesRun_of_syncRecord [PatternEngine] {id : RecordId} {text : String}
    (hrun : workspace.syncRecord id text = .ok report) (hsaving : report.saving = some saving) :
    workspace.SavesRun saving := by
  -- every step is stated as the command has it, for comparing whole runs would run them
  have hopened : workspace.editor.RunsTo (workspace.editor.pressButton id .view 0).2 :=
    (Editor.RunsTo.refl _).perform (.pressButton id .view) trivial 0
  have hshown : workspace.editor.RunsTo
      ((workspace.editor.pressButton id .view 0).2.setMode .formDataJson).2 :=
    hopened.perform (.setMode .formDataJson) trivial 0
  have htyped : workspace.editor.RunsTo
      (((workspace.editor.pressButton id .view 0).2.setMode .formDataJson).2.recordTextChanged text 0) :=
    hshown.perform (.recordTextChanged text) trivial 0
  unfold syncRecord at hrun
  obtain ⟨_, -, hrun⟩ := eq_ok_of_bind hrun
  rw [← Except.ok.inj hrun] at hsaving
  split at hsaving
  · cases hsaving
    exact ⟨_, htyped.settle 0, rfl⟩
  · cases hsaving

/-- **What a command saves is what a run of the editor leaves.** -/
theorem savesRun_of_run [PatternEngine] {command : Command} (hrun : workspace.run files command = .ok report)
    (hsaving : report.saving = some saving) : workspace.SavesRun saving := by
  have hstart : workspace.editor.RunsTo workspace.editor := .refl _
  cases command with
  | palette search =>
      cases hrun
      cases hsaving
  | drop tag sectionId index =>
      obtain ⟨type, -, hrun⟩ := eq_ok_of_bind hrun
      have hdrag : workspace.editor.RunsTo (workspace.editor.dragStart type).2 :=
        hstart.perform (.dragStart type) trivial 0
      simp only at hrun
      split at hrun
      · exact savesRun_of_saveResult (hdrag.dropOnCanvas _ 0) hrun hsaving
      · exact savesRun_of_saveResult ((hdrag.dragOver _).drop _ _ 0) hrun hsaving
  | delete elementId =>
      cases hrun
      exact savesRun_of_saveActions (hstart.perform (.deleteElement elementId) trivial 0) hsaving
  | duplicate elementId =>
      cases hrun
      exact savesRun_of_saveActions (hstart.perform (.duplicateElement elementId) trivial 0) hsaving
  | morph elementId tag =>
      obtain ⟨type, -, hrun⟩ := eq_ok_of_bind hrun
      exact savesRun_of_saveResult (hstart.perform (.morphElement elementId type) trivial 0) hrun hsaving
  | moveRow rowId direction =>
      cases hrun
      exact savesRun_of_saveActions (hstart.perform (.moveRow rowId direction) trivial 0) hsaving
  | rename name =>
      cases hrun
      exact savesRun_of_saveActions (hstart.perform (.rename name) trivial 0) hsaving
  | render mode record =>
      cases hrun
      cases hsaving
  | submit assignments record =>
      obtain ⟨_, -, hrun⟩ := eq_ok_of_bind hrun
      obtain ⟨entered, hentered, hrun⟩ := eq_ok_of_bind hrun
      have hopened : workspace.editor.RunsTo (openEntry workspace.editor record) := by
        cases record with
        | some id => exact hstart.perform (.pressButton id .update) trivial 0
        | none => exact hstart.perform (.setMode .add) trivial 0
      have hsubmitted := (hopened.enter assignments hentered).perform .submit trivial 0
      split at hrun
      · cases hrun
      · cases hrun
        exact savesRun_of_saveActions hsubmitted hsaving
  | deleteRecord id =>
      obtain ⟨_, -, hrun⟩ := eq_ok_of_bind hrun
      cases hrun
      exact savesRun_of_saveActions (hstart.perform (.pressButton id .delete) trivial 0) hsaving
  | sync path record =>
      obtain ⟨text, -, hrun⟩ := eq_ok_of_bind hrun
      cases record with
      | some id => exact savesRun_of_syncRecord hrun hsaving
      | none =>
          cases hrun
          exact savesRun_of_syncForm hsaving

/-- A sound workspace saves sound things. -/
theorem SavesRun.isSound [PatternEngine] (hsaves : workspace.SavesRun saving) (hsound : workspace.IsSound) :
    saving.IsSound := by
  obtain ⟨_, ⟨steps, hsteps, rfl⟩, rfl⟩ := hsaves
  have hvalues := hsound.values.run steps hsteps
  refine ⟨(hsound.form.run steps).form, ?_⟩
  intro record hrecord
  cases hpath : workspace.recordsPath with
  | none =>
      have hnone : ((workspace.withEditor (workspace.editor.run steps)).saving).records = none := by
        rw [Workspace.saving, withEditor, hpath, Option.map_none]
      rw [Saving.recordList_of_none hnone] at hrecord
      cases hrecord
  | some path =>
      have hsome : ((workspace.withEditor (workspace.editor.run steps)).saving).records =
          some (path, (workspace.editor.run steps).records.records) := by
        rw [Workspace.saving, withEditor, hpath, Option.map_some]
      rw [Saving.recordList_of_some hsome] at hrecord
      exact hvalues.records record hrecord

end Workspace

/-- **What an invocation saves is sound**, and it goes to the files that the settings name. -/
theorem Invocation.isSound_of_run [PatternEngine] {invocation : Invocation} {files : Files} {ids : IdSupply}
    {report : Report} {saving : Saving} (hrun : invocation.run files ids = .ok report)
    (hsaving : report.saving = some saving) :
    saving.IsSound ∧ saving.formPath = invocation.settings.formPath ∧
      ∀ path records, saving.records = some (path, records) → invocation.settings.recordsPath = some path := by
  unfold Invocation.run at hrun
  split at hrun
  · rename_i name force _
    unfold create at hrun
    split at hrun
    · cases hrun
    · cases hrun
      cases hsaving
      refine ⟨⟨?_, fun record hrecord => absurd hrecord List.not_mem_nil⟩, rfl, nofun⟩
      have hblank := Form.isSound_blank (ids.take "form").1
      cases name with
      | none => exact hblank
      | some name => exact ⟨hblank.registry, hblank.sections⟩
  · obtain ⟨workspace, hopen, hrun⟩ := eq_ok_of_bind hrun
    obtain ⟨hform, hrecords, hsound⟩ := Workspace.ofFiles_eq_ok hopen
    have hsaves := Workspace.savesRun_of_run hrun hsaving
    refine ⟨hsaves.isSound hsound, ?_, ?_⟩
    · obtain ⟨_, -, rfl⟩ := hsaves
      exact hform
    · obtain ⟨_, -, rfl⟩ := hsaves
      intro path records hsaved
      obtain ⟨_, hpath, hsame⟩ := Option.map_eq_some_iff.mp hsaved
      cases hsame
      exact hrecords.symm.trans hpath

end FormEditor
