import FormEditor.Pattern.Standard
import FormEditor.Proofs.CommandLine.Saving
import FormEditor.Proofs.Form.RoundTrip

/-! Reopening what was saved. A session is a list of commands on one form and its records. What a command
saves is sound, so the form is read back from its file. The records are read back too, unless one of them
has a value of the name `id`: that name is taken by the id of the record, and a file in which it stands
twice is refused by every command that comes after. -/

namespace FormEditor

/-- The paths of a form and of its records: two files of the folder. -/
structure FilePaths where
  form : String
  records : String
  formName : String
  recordsName : String
  fileName?_form : Folder.fileName? form = some formName
  fileName?_records : Folder.fileName? records = some recordsName
  distinct : formName ≠ recordsName

/-! ### Sessions -/

namespace Invocation

/-- What a command saves if it succeeds. -/
def savingIn [PatternEngine] (invocation : Invocation) (folder : Folder) (ids : IdSupply) : Option Saving := do
  let report ← (invocation.run folder.look ids).toOption
  let _ ← (invocation.runIn folder ids).1.toOption
  report.saving

/-- The folder after a command. -/
def leaves [PatternEngine] (invocation : Invocation) (folder : Folder) (ids : IdSupply) : Folder :=
  (invocation.runIn folder ids).2.2.1

/-- What the commands of a session save, each with the folder that it leaves. -/
def savings [PatternEngine] (folder : Folder) (ids : IdSupply) : List Invocation → List (Saving × Folder)
  | [] => []
  | invocation :: rest =>
    let next := invocation.leaves folder ids
    (invocation.savingIn folder ids).toList.map (·, next) ++
      savings next (invocation.runIn folder ids).2.2.2 rest

end Invocation

namespace Saving

/-- The numbers that are saved are integers, and the values of the records are nested less than a hundred
levels. -/
structure IsModest (saving : Saving) : Prop where
  form : saving.form.IsIntegral
  integral : ∀ record ∈ saving.recordList, record.IsIntegral
  nests : ∀ record ∈ saving.recordList, record.NestsBelow 100

/-- No record that is saved has a value of the name of the id. -/
def LeavesId (saving : Saving) : Prop :=
  ∀ record ∈ saving.recordList, record.LeavesId

/-- Whatever command comes next, it starts on the form and the records that were saved. -/
def ReopensIn (saving : Saving) (paths : FilePaths) (folder : Folder) : Prop :=
  ∀ (settings : Settings) (mode : ViewMode) (ids : IdSupply),
    settings.formPath = paths.form → settings.recordsPath = some paths.records →
    ∃ workspace, Workspace.ofFiles folder.look settings mode ids = .ok workspace ∧
      workspace.editor.form = saving.form ∧
      ∀ path records, saving.records = some (path, records) → workspace.editor.records.records = records

end Saving

namespace FilePaths

variable (paths : FilePaths) {folder : Folder} {ids : IdSupply} {saving : Saving}

/-- The settings name these files; the records may be left out. -/
structure AreNamedBy (settings : Settings) : Prop where
  form : settings.formPath = paths.form
  records : ∀ path, settings.recordsPath = some path → path = paths.records

/-- Each file is absent or can be read. -/
structure AreLegibleIn (folder : Folder) : Prop where
  form : ∀ text, folder.get? paths.formName = some text → ∃ form, Form.ofText text = .ok form
  records : ∀ text, folder.get? paths.recordsName = some text → ∃ records, Record.listOfText text = .ok records

/-- The folder with what is saved in its files. -/
def store (saving : Saving) (folder : Folder) : Folder :=
  saving.records.elim (folder.insert paths.formName saving.form.text) fun (_, records) =>
    (folder.insert paths.formName saving.form.text).insert paths.recordsName (Record.listText records)

/-! ### The files after saving -/

theorem get?_form_store (saving : Saving) (folder : Folder) :
    (paths.store saving folder).get? paths.formName = some saving.form.text := by
  unfold store
  cases saving.records with
  | none => rw [Option.elim_none, Dictionary.get?_insert, if_pos rfl]
  | some saved =>
      rw [Option.elim_some, Dictionary.get?_insert, if_neg (Ne.symm paths.distinct), Dictionary.get?_insert,
        if_pos rfl]

theorem get?_records_store {path : String} {records : List Record}
    (hrecords : saving.records = some (path, records)) (folder : Folder) :
    (paths.store saving folder).get? paths.recordsName = some (Record.listText records) := by
  rw [store, hrecords, Option.elim_some, Dictionary.get?_insert, if_pos rfl]

theorem get?_records_store_of_none (hnone : saving.records = none) (folder : Folder) :
    (paths.store saving folder).get? paths.recordsName = folder.get? paths.recordsName := by
  rw [store, hnone, Option.elim_none, Dictionary.get?_insert, if_neg paths.distinct]

theorem write_texts (hform : saving.formPath = paths.form)
    (hrecords : ∀ path records, saving.records = some (path, records) → path = paths.records)
    (folder : Folder) : folder.write saving.texts = (.ok (), paths.store saving folder) := by
  unfold Saving.texts store
  cases hsaved : saving.records with
  | none => simp [Folder.write, hform, paths.fileName?_form]
  | some saved =>
      obtain ⟨path, records⟩ := saved
      cases hrecords path records hsaved
      simp [Folder.write, hform, paths.fileName?_form, paths.fileName?_records]

/-! ### Reading the files -/

theorem look_form (folder : Folder) :
    folder.look paths.form = (folder.get? paths.formName).elim .absent .text := by
  rw [Folder.look, paths.fileName?_form]

theorem look_records (folder : Folder) :
    folder.look paths.records = (folder.get? paths.recordsName).elim .absent .text := by
  rw [Folder.look, paths.fileName?_records]

theorem readForm_of_text {text : String} {form : Form} (htext : folder.get? paths.formName = some text)
    (hread : Form.ofText text = .ok form) (ids : IdSupply) :
    Workspace.readForm folder.look paths.form ids = .ok (form, ids) := by
  have hcontent : (folder.look paths.form).content? paths.form = .ok (some text) := by
    rw [look_form, htext]
    rfl
  rw [Workspace.readForm, hcontent]
  simp only [bind, Except.bind, hread]
  rfl

theorem readRecords_of_text {text : String} {records : List Record}
    (htext : folder.get? paths.recordsName = some text) (hread : Record.listOfText text = .ok records) :
    Workspace.readRecords folder.look paths.records = .ok records := by
  have hcontent : (folder.look paths.records).content? paths.records = .ok (some text) := by
    rw [look_records, htext]
    rfl
  rw [Workspace.readRecords, hcontent]
  simp only [bind, Except.bind, hread]
  rfl

theorem readRecords_of_none (hnone : folder.get? paths.recordsName = none) :
    Workspace.readRecords folder.look paths.records = .ok [] := by
  have hcontent : (folder.look paths.records).content? paths.records = .ok none := by
    rw [look_records, hnone]
    rfl
  rw [Workspace.readRecords, hcontent]
  rfl

/-- Records that a command starts on were read from their file. -/
theorem exists_of_readRecords {text : String} {records : List Record}
    (htext : folder.get? paths.recordsName = some text)
    (hread : Workspace.readRecords folder.look paths.records = .ok records) :
    Record.listOfText text = .ok records := by
  have hcontent : (folder.look paths.records).content? paths.records = .ok (some text) := by
    rw [look_records, htext]
    rfl
  rw [Workspace.readRecords, hcontent] at hread
  cases hlist : Record.listOfText text with
  | error fault =>
      simp only [bind, Except.bind, hlist] at hread
      cases hread
  | ok read =>
      simp only [bind, Except.bind, hlist] at hread
      cases hread
      rfl

/-- A command starts on what is read from its files. -/
theorem ofFiles_of_read {settings : Settings} {form : Form} {rest : IdSupply} {records : List Record}
    (hpath : settings.formPath = paths.form) (hrecordsPath : settings.recordsPath = some paths.records)
    (hform : Workspace.readForm folder.look paths.form ids = .ok (form, rest))
    (hrecords : Workspace.readRecords folder.look paths.records = .ok records) (mode : ViewMode) :
    Workspace.ofFiles folder.look settings mode ids =
      .ok ⟨paths.form, some paths.records,
        (Editor.start form (settings.config mode) rest 0).loadRecords records 0⟩ := by
  rw [Workspace.ofFiles, hpath, hrecordsPath, hform]
  simp only [bind, Except.bind, hrecords]
  rfl

theorem readRecords_of_ofFiles {settings : Settings} {mode : ViewMode} {workspace : Workspace}
    (hpath : settings.recordsPath = some paths.records)
    (hopen : Workspace.ofFiles folder.look settings mode ids = .ok workspace) :
    ∃ records, Workspace.readRecords folder.look paths.records = .ok records := by
  obtain ⟨⟨form, rest⟩, -, hopen⟩ := eq_ok_of_bind hopen
  simp only [hpath] at hopen
  obtain ⟨records, hrecords, -⟩ := eq_ok_of_bind hopen
  exact ⟨records, hrecords⟩

/-! ### Reopening -/

/-- The records are read back from what was saved, or as they were if none were saved. -/
theorem readRecords_store (hlegible : paths.AreLegibleIn folder) (hsound : saving.IsSound)
    (hmodest : saving.IsModest) (hleaves : saving.LeavesId) :
    ∃ records, Workspace.readRecords (paths.store saving folder).look paths.records = .ok records ∧
      ∀ path saved, saving.records = some (path, saved) → records = saved := by
  cases hsaved : saving.records with
  | none =>
      have hkept := paths.get?_records_store_of_none hsaved folder
      cases htext : folder.get? paths.recordsName with
      | none => exact ⟨[], paths.readRecords_of_none (hkept.trans htext), nofun⟩
      | some text =>
          obtain ⟨records, hread⟩ := hlegible.records text htext
          exact ⟨records, paths.readRecords_of_text (hkept.trans htext) hread, nofun⟩
  | some saved =>
      obtain ⟨path, records⟩ := saved
      have hread := Record.listOfText_listText hsound.records hmodest.integral hmodest.nests hleaves
      rw [Saving.recordList_of_some hsaved] at hread
      refine ⟨records, paths.readRecords_of_text (paths.get?_records_store hsaved folder) hread, ?_⟩
      rintro _ _ ⟨rfl⟩
      rfl

/-- **What was saved is what the next command starts on**, unless a record has a value of the name of the
id. -/
theorem reopensIn_store (hlegible : paths.AreLegibleIn folder) (hsound : saving.IsSound)
    (hmodest : saving.IsModest) (hleaves : saving.LeavesId) :
    saving.ReopensIn paths (paths.store saving folder) := by
  intro settings mode ids hpath hrecordsPath
  have hform := paths.readForm_of_text (paths.get?_form_store saving folder)
    (hsound.form.ofText_text hmodest.form) ids
  obtain ⟨records, hrecords, hsame⟩ := paths.readRecords_store hlegible hsound hmodest hleaves
  have hopen := paths.ofFiles_of_read hpath hrecordsPath hform hrecords mode
  obtain ⟨bridge, hloaded⟩ := (Editor.start saving.form (settings.config mode) ids 0).loadRecords_eq records 0
  rw [hloaded] at hopen
  exact ⟨_, hopen, rfl, hsame⟩

theorem areLegibleIn_store (hlegible : paths.AreLegibleIn folder) (hsound : saving.IsSound)
    (hmodest : saving.IsModest) (hleaves : saving.LeavesId) :
    paths.AreLegibleIn (paths.store saving folder) := by
  refine ⟨?_, ?_⟩
  · intro text htext
    cases (paths.get?_form_store saving folder).symm.trans htext
    exact ⟨saving.form, hsound.form.ofText_text hmodest.form⟩
  · intro text htext
    obtain ⟨records, hrecords, -⟩ := paths.readRecords_store hlegible hsound hmodest hleaves
    exact ⟨records, paths.exists_of_readRecords htext hrecords⟩

/-- If any command on the records starts, no record that was saved has a value of the name of the id. -/
theorem leavesId_of_ofFiles (hmodest : saving.IsModest) {settings : Settings} {mode : ViewMode}
    {workspace : Workspace} (hpath : settings.recordsPath = some paths.records)
    (hopen : Workspace.ofFiles (paths.store saving folder).look settings mode ids = .ok workspace) :
    saving.LeavesId := by
  cases hsaved : saving.records with
  | none =>
      intro record hrecord
      rw [Saving.recordList_of_none hsaved] at hrecord
      cases hrecord
  | some saved =>
      obtain ⟨path, records⟩ := saved
      obtain ⟨read, hread⟩ := paths.readRecords_of_ofFiles hpath hopen
      have htext := paths.exists_of_readRecords (paths.get?_records_store hsaved folder) hread
      rw [← Saving.recordList_of_some hsaved] at htext
      exact Record.leavesId_of_listOfText hmodest.integral htext

end FilePaths

/-! ### Commands one after another -/

namespace Invocation

variable {paths : FilePaths} {invocation : Invocation} {folder : Folder} {ids : IdSupply} {saving : Saving}

/-- A command that succeeds stores what it saves. -/
theorem saves_of_run [PatternEngine] (hnames : paths.AreNamedBy invocation.settings) {report : Report}
    (hrun : invocation.run folder.look ids = .ok report) :
    invocation.savingIn folder ids = report.saving ∧
      invocation.leaves folder ids = report.saving.elim folder fun saving => paths.store saving folder := by
  unfold savingIn leaves runIn
  cases hsaving : report.saving with
  | none =>
      have hwrites : report.writes = [] := by rw [Report.writes, hsaving, Option.elim_none]
      simp only [hrun, hwrites]
      exact ⟨hsaving, rfl⟩
  | some saving =>
      obtain ⟨-, hform, hrecords⟩ := isSound_of_run hrun hsaving
      have hwrites : report.writes = saving.texts := by rw [Report.writes, hsaving, Option.elim_some]
      have hstored := paths.write_texts (hform.trans hnames.form)
        (fun path records hsaved => hnames.records path (hrecords path records hsaved)) folder
      simp only [hrun, hwrites, hstored]
      exact ⟨hsaving, rfl⟩

/-- A command saves nothing and leaves the folder as it was, or it stores what it saves. -/
theorem savingIn_cases [PatternEngine] (hnames : paths.AreNamedBy invocation.settings) (folder : Folder)
    (ids : IdSupply) :
    (invocation.savingIn folder ids = none ∧ invocation.leaves folder ids = folder) ∨
    ∃ saving, invocation.savingIn folder ids = some saving ∧ saving.IsSound ∧
      invocation.leaves folder ids = paths.store saving folder := by
  cases hrun : invocation.run folder.look ids with
  | error cause =>
      rw [savingIn, leaves, runIn, hrun]
      exact Or.inl ⟨rfl, rfl⟩
  | ok report =>
      obtain ⟨hsaves, hleaves⟩ := saves_of_run hnames hrun
      cases hsaving : report.saving with
      | none =>
          rw [hsaving] at hsaves hleaves
          exact Or.inl ⟨hsaves, hleaves⟩
      | some saving =>
          rw [hsaving] at hsaves hleaves
          exact Or.inr ⟨saving, hsaves, (isSound_of_run hrun hsaving).1, hleaves⟩

theorem mem_savings [PatternEngine] {invocations : List Invocation} {saved : Saving × Folder} :
    ∀ {folder : Folder} {ids : IdSupply}, (∀ invocation ∈ invocations, paths.AreNamedBy invocation.settings) →
      saved ∈ savings folder ids invocations →
      saved.1.IsSound ∧ ∃ before, saved.2 = paths.store saved.1 before := by
  induction invocations with
  | nil => exact fun _ hsaved => absurd hsaved List.not_mem_nil
  | cons invocation rest ih =>
      intro folder ids hnames hsaved
      obtain ⟨hfirst, hothers⟩ := List.forall_mem_cons.mp hnames
      rcases List.mem_append.mp hsaved with hhere | hlater
      · rcases savingIn_cases hfirst folder ids with ⟨hnone, -⟩ | ⟨saving, hsome, hsound, hleaves⟩
        · rw [hnone] at hhere
          cases hhere
        · rw [hsome] at hhere
          cases List.mem_singleton.mp hhere
          exact ⟨hsound, folder, hleaves⟩
      · exact ih hothers hlater

/-- **A session can go on after everything it saves if and only if it saves no value of the name `id`.** Take
any session on a form and its records, whose files are absent at first or can be read, and in which the
saved numbers are integers and the values of records are nested less than a hundred levels. After every
command that succeeds and saves, the next one starts on the same form and the same records, provided that
no record was ever saved with a value of the name `id`; and only then. -/
theorem session_reopens_iff [PatternEngine] (paths : FilePaths) (folder : Folder) (ids : IdSupply)
    (hlegible : paths.AreLegibleIn folder) (invocations : List Invocation)
    (hnames : ∀ invocation ∈ invocations, paths.AreNamedBy invocation.settings)
    (hmodest : ∀ saved ∈ savings folder ids invocations, saved.1.IsModest) :
    (∀ saved ∈ savings folder ids invocations, saved.1.ReopensIn paths saved.2) ↔
      ∀ saved ∈ savings folder ids invocations, saved.1.LeavesId := by
  constructor
  · intro hreopens saved hsaved
    obtain ⟨-, before, hstored⟩ := mem_savings hnames hsaved
    let settings : Settings := ⟨paths.form, some paths.records, 0, 0, .wholeRow⟩
    obtain ⟨workspace, hopen, -⟩ := hreopens saved hsaved settings .editor ids rfl rfl
    rw [hstored] at hopen
    exact paths.leavesId_of_ofFiles (hmodest saved hsaved) rfl hopen
  · -- the files stay legible throughout, which matters for a new form: it leaves the records as they are
    induction invocations generalizing folder ids with
    | nil => exact fun _ saved hsaved => absurd hsaved List.not_mem_nil
    | cons invocation rest ih =>
        intro hleaves saved hsaved
        obtain ⟨hfirst, hothers⟩ := List.forall_mem_cons.mp hnames
        obtain ⟨hmodestHere, hmodestLater⟩ := List.forall_mem_append.mp hmodest
        obtain ⟨hleavesHere, hleavesLater⟩ := List.forall_mem_append.mp hleaves
        rcases savingIn_cases hfirst folder ids with ⟨hnone, hkept⟩ | ⟨saving, hsome, hsound, hstored⟩
        · -- nothing is saved here
          rw [savings, hnone] at hsaved
          rw [hkept] at hsaved hmodestLater hleavesLater
          exact ih _ _ hlegible hothers hmodestLater hleavesLater saved hsaved
        · rw [hsome] at hmodestHere hleavesHere
          have hmodestSaving := hmodestHere _ (List.mem_singleton.mpr rfl)
          have hleavesSaving := hleavesHere _ (List.mem_singleton.mpr rfl)
          rcases List.mem_append.mp hsaved with hhere | hlater
          · rw [hsome] at hhere
            cases List.mem_singleton.mp hhere
            rw [hstored]
            exact paths.reopensIn_store hlegible hsound hmodestSaving hleavesSaving
          · have hnext := paths.areLegibleIn_store hlegible hsound hmodestSaving hleavesSaving
            rw [← hstored] at hnext
            exact ih _ _ hnext hothers hmodestLater hleavesLater saved hlater

/-! ### Submissions to a form with one field -/

/-- A form with one field. -/
def oneFieldForm (fieldId : String) : Form :=
  let field : Element := .input ⟨.text, ⟨fieldId, none, none, none, none⟩, "L", none, none, none, none⟩
  let row : Row := ⟨"r", [⟨"c", .full, field⟩], none⟩
  ⟨⟨"u", "1", "A"⟩, ⟨[(.text, ⟨"c", "i", {}⟩)], by decide⟩, [⟨"s", "S", [row]⟩]⟩

/-- The folder of that form, without records. -/
def oneFieldFolder (fieldId : String) : Folder :=
  .ofList [("form.json", (oneFieldForm fieldId).text)]

/-- A number is submitted for its field. -/
def submitSeven (fieldId : String) : Invocation where
  settings := ⟨"form.json", some "records.json", 500, 0, .wholeRow⟩
  request := .command (.submit [fieldId ++ "=7"] none)

/-- The form is saved with the record that was submitted. -/
def savedSeven (fieldId : String) : Saving where
  formPath := "form.json"
  form := oneFieldForm fieldId
  records := some ("records.json", [⟨1, .ofList [(fieldId, .number (.ofWord 7))]⟩])

def standardPaths : FilePaths where
  form := "form.json"
  records := "records.json"
  formName := "form.json"
  recordsName := "records.json"
  fileName?_form := by decide +kernel
  fileName?_records := by decide +kernel
  distinct := by decide

theorem isSound_oneFieldForm (fieldId : String) : (oneFieldForm fieldId).IsSound := by
  refine ⟨rfl, ?_⟩
  intro part hpart row hrow
  cases List.mem_singleton.mp hpart
  cases List.mem_singleton.mp hrow
  refine ⟨?_, nofun⟩
  intro column hcolumn
  cases List.mem_singleton.mp hcolumn
  rfl

theorem isIntegral_oneFieldForm (fieldId : String) : (oneFieldForm fieldId).IsIntegral := by
  intro part hpart row hrow condition hcondition
  cases List.mem_singleton.mp hpart
  cases List.mem_singleton.mp hrow
  cases hcondition

theorem ofText_oneFieldForm (fieldId : String) :
    Form.ofText (oneFieldForm fieldId).text = .ok (oneFieldForm fieldId) :=
  (isSound_oneFieldForm fieldId).ofText_text (isIntegral_oneFieldForm fieldId)

theorem isModest_savedSeven (fieldId : String) : (savedSeven fieldId).IsModest := by
  refine ⟨isIntegral_oneFieldForm fieldId, ?_, ?_⟩
  · intro record hrecord entry hentry
    cases List.mem_singleton.mp hrecord
    cases List.mem_singleton.mp hentry
    rfl
  · intro record hrecord entry hentry
    cases List.mem_singleton.mp hrecord
    cases List.mem_singleton.mp hentry
    exact Nat.zero_lt_succ 99

theorem standardPaths_areNamedBy (fieldId : String) :
    standardPaths.AreNamedBy (submitSeven fieldId).settings where
  form := rfl
  records := by
    rintro path ⟨rfl⟩
    rfl

theorem get?_form_oneFieldFolder (fieldId : String) :
    (oneFieldFolder fieldId).get? "form.json" = some (oneFieldForm fieldId).text := rfl

theorem get?_records_oneFieldFolder (fieldId : String) :
    (oneFieldFolder fieldId).get? "records.json" = none := rfl

theorem standardPaths_areLegibleIn (fieldId : String) :
    standardPaths.AreLegibleIn (oneFieldFolder fieldId) where
  form := by
    intro text htext
    rw [standardPaths, get?_form_oneFieldFolder] at htext
    obtain rfl := Option.some.inj htext
    exact ⟨_, ofText_oneFieldForm fieldId⟩
  records := by
    intro text htext
    rw [standardPaths, get?_records_oneFieldFolder] at htext
    cases htext

/-- The editor that the number is entered into. -/
def oneFieldWorkspace (fieldId : String) : Workspace where
  formPath := "form.json"
  recordsPath := some "records.json"
  editor :=
    let config := (submitSeven fieldId).settings.config .editor
    (Editor.start (oneFieldForm fieldId) config ⟨0⟩ 0).loadRecords [] 0

theorem ofFiles_oneFieldFolder (fieldId : String) :
    Workspace.ofFiles (oneFieldFolder fieldId).look (submitSeven fieldId).settings .editor ⟨0⟩ =
      .ok (oneFieldWorkspace fieldId) := by
  have hform := standardPaths.readForm_of_text (get?_form_oneFieldFolder fieldId) (ofText_oneFieldForm fieldId) ⟨0⟩
  have hrecords := standardPaths.readRecords_of_none (get?_records_oneFieldFolder fieldId)
  exact standardPaths.ofFiles_of_read rfl rfl hform hrecords .editor

theorem run_submitSeven [PatternEngine] (fieldId : String) :
    (submitSeven fieldId).run (oneFieldFolder fieldId).look ⟨0⟩ =
      (oneFieldWorkspace fieldId).submit [fieldId ++ "=7"] none := by
  have hopen := ofFiles_oneFieldFolder fieldId
  rw [submitSeven] at hopen ⊢
  simp only [Invocation.run, initialMode, hopen]
  rfl

/-- If the submission saves the record, nothing else is saved in a session of it alone. -/
theorem savings_submitSeven [PatternEngine] {fieldId : String}
    (hsaves : ((oneFieldWorkspace fieldId).submit [fieldId ++ "=7"] none).toOption.bind (·.saving) =
      some (savedSeven fieldId)) :
    savings (oneFieldFolder fieldId) ⟨0⟩ [submitSeven fieldId] =
      [(savedSeven fieldId, standardPaths.store (savedSeven fieldId) (oneFieldFolder fieldId))] := by
  rw [← run_submitSeven] at hsaves
  obtain ⟨report, hreport, hsaving⟩ := Option.bind_eq_some_iff.mp hsaves
  cases hrun : (submitSeven fieldId).run (oneFieldFolder fieldId).look ⟨0⟩ with
  | error cause =>
      rw [hrun] at hreport
      cases hreport
  | ok done =>
      rw [hrun] at hreport
      cases hreport
      obtain ⟨hhere, hleaves⟩ := saves_of_run (standardPaths_areNamedBy fieldId) hrun
      rw [hsaving] at hhere hleaves
      rw [savings, hhere, hleaves]
      rfl

/-- A submission to a field of another name. -/
theorem submission_reopens :
    let session := [submitSeven "a"]
    let saved := savings (oneFieldFolder "a") ⟨0⟩ session
    saved.map (·.1) = [savedSeven "a"] ∧ ∀ saving ∈ saved, saving.1.ReopensIn standardPaths saving.2 := by
  have hsaves : ((oneFieldWorkspace "a").submit ["a" ++ "=7"] none).toOption.bind (·.saving) =
      some (savedSeven "a") := by decide +kernel
  have hsavings := savings_submitSeven hsaves
  have hnames : ∀ invocation ∈ [submitSeven "a"], standardPaths.AreNamedBy invocation.settings := by
    intro invocation hinvocation
    rw [List.mem_singleton.mp hinvocation]
    exact standardPaths_areNamedBy "a"
  have hmodest : ∀ saved ∈ savings (oneFieldFolder "a") ⟨0⟩ [submitSeven "a"], saved.1.IsModest := by
    intro saved hsaved
    rw [hsavings] at hsaved
    rw [List.mem_singleton.mp hsaved]
    exact isModest_savedSeven "a"
  refine ⟨by rw [hsavings]; rfl, ?_⟩
  refine (session_reopens_iff standardPaths _ _ (standardPaths_areLegibleIn "a") _ hnames hmodest).mpr ?_
  intro saved hsaved record hrecord
  rw [hsavings] at hsaved
  rw [List.mem_singleton.mp hsaved] at hrecord
  rw [List.mem_singleton.mp hrecord]
  rfl

/-- A submission to a field whose id is `id`: no command on the records that it saves can start. -/
theorem submission_to_id_not_reopened :
    standardPaths.AreLegibleIn (oneFieldFolder "id") ∧
    standardPaths.AreNamedBy (submitSeven "id").settings ∧
    ∃ saved, savings (oneFieldFolder "id") ⟨0⟩ [submitSeven "id"] = [saved] ∧ saved.1.IsModest ∧
      ∀ (settings : Settings) (mode : ViewMode) (ids : IdSupply) (workspace : Workspace),
        settings.recordsPath = some standardPaths.records →
        Workspace.ofFiles saved.2.look settings mode ids ≠ .ok workspace := by
  have hsaves : ((oneFieldWorkspace "id").submit ["id" ++ "=7"] none).toOption.bind (·.saving) =
      some (savedSeven "id") := by decide +kernel
  have hmodest := isModest_savedSeven "id"
  have hsavings := savings_submitSeven hsaves
  refine ⟨standardPaths_areLegibleIn "id", standardPaths_areNamedBy "id", _, hsavings, hmodest, ?_⟩
  intro settings mode ids workspace hpath hopen
  have hleaves := standardPaths.leavesId_of_ofFiles hmodest hpath hopen
  have hid := hleaves _ (List.mem_singleton.mpr rfl)
  cases hid

end Invocation

end FormEditor
