import Mathlib.Data.List.TakeDrop
import Mathlib.Data.List.TakeWhile
import FormEditor.Pattern.Standard
import FormEditor.Proofs.CommandLine.Reopening
import FormEditor.Proofs.Editor.Failure
import FormEditor.Proofs.Editor.Rejection

/-! How commands fail. A command reads its files, does what it is asked for, and only then saves, so whatever
makes it fail before that leaves the files as they were. Each cause is told by what was asked for and what
the files hold; after that only a file that cannot be written is left as a cause. -/

namespace FormEditor

/-! ### Assignments -/

/-- A text that assigns a value to a field: it has a `=`, and something before the first one. -/
def IsAssignment (text : String) : Prop :=
  ∃ fieldId assigned : List Char, fieldId ≠ [] ∧ '=' ∉ fieldId ∧ text.toList = fieldId ++ '=' :: assigned

/-- The first text of a list that is no assignment. -/
inductive FirstMalformed : List String → String → Prop where
  | here {text : String} {texts : List String} (hmalformed : ¬IsAssignment text) :
      FirstMalformed (text :: texts) text
  | later {first text : String} {texts : List String} (hassigns : IsAssignment first)
      (hlater : FirstMalformed texts text) : FirstMalformed (first :: texts) text

theorem exists_firstMalformed {texts : List String} (hmalformed : ∃ text ∈ texts, ¬IsAssignment text) :
    ∃ text, FirstMalformed texts text := by
  induction texts with
  | nil =>
      obtain ⟨text, hmem, -⟩ := hmalformed
      cases hmem
  | cons first texts ih =>
      by_cases hfirst : IsAssignment first
      · obtain ⟨text, hmem, htext⟩ := hmalformed
        rcases List.mem_cons.mp hmem with rfl | hlater
        · exact absurd hfirst htext
        · obtain ⟨other, hother⟩ := ih ⟨text, hlater, htext⟩
          exact ⟨other, .later hfirst hother⟩
      · exact ⟨first, .here hfirst⟩

theorem Argument.splitName_of_not_mem {chars : List Char} (hnone : '=' ∉ chars) :
    splitName chars = (String.ofList chars, none) := by
  have hall : ∀ char ∈ chars, decide (char ≠ '=') = true := by
    intro char hchar
    exact decide_eq_true fun hsame => hnone (hsame ▸ hchar)
  rw [splitName, List.span_eq_takeWhile_dropWhile, List.dropWhile_eq_nil_iff.mpr hall,
    List.takeWhile_eq_self_iff.mpr hall]

theorem Argument.splitName_append {fieldId : List Char} (hfirst : '=' ∉ fieldId) (assigned : List Char) :
    splitName (fieldId ++ '=' :: assigned) = (String.ofList fieldId, some (String.ofList assigned)) := by
  have hall : ∀ char ∈ fieldId, decide (char ≠ '=') = true := by
    intro char hchar
    exact decide_eq_true fun hsame => hfirst (hsame ▸ hchar)
  rw [splitName, List.span_eq_takeWhile_dropWhile, List.dropWhile_append_of_pos hall,
    List.takeWhile_append_of_pos hall]
  simp

/-- A field and what is assigned to it. -/
structure Assignment where
  fieldId : String
  assigned : String
  named : fieldId ≠ ""
  plain : '=' ∉ fieldId.toList

namespace Assignment

/-- An assignment as it is given on the command line. What is assigned may have a `=` in it. -/
def text (assignment : Assignment) : String :=
  assignment.fieldId ++ "=" ++ assignment.assigned

/-- The value is what can be read as JSON, or else a string. -/
def value (assignment : Assignment) : Json :=
  match Json.decodeText (Json.Node.json 0) assignment.assigned with
  | .ok value => value
  | .error _ => .string assignment.assigned

theorem toList_text (assignment : Assignment) :
    assignment.text.toList = assignment.fieldId.toList ++ '=' :: assignment.assigned.toList := by
  simp [text]

theorem readAssignment_text (assignment : Assignment) :
    readAssignment assignment.text = .ok (assignment.fieldId, assignment.value) := by
  have hnamed : assignment.fieldId.isEmpty = false := by simpa using assignment.named
  have hvalue : Json.ofAssigned assignment.assigned = assignment.value := by
    unfold Json.ofAssigned value
    cases Json.decodeText (Json.Node.json 0) assignment.assigned <;> rfl
  rw [readAssignment, toList_text, Argument.splitName_append assignment.plain, String.ofList_toList,
    String.ofList_toList]
  simp only [hnamed, hvalue, Bool.false_eq_true, if_false]
  rfl

end Assignment

/-- The texts of assignments are those that are well-formed. -/
theorem isAssignment_iff {text : String} : IsAssignment text ↔ ∃ assignment : Assignment, assignment.text = text := by
  constructor
  · rintro ⟨fieldId, assigned, hnamed, hplain, htext⟩
    let assignment : Assignment := ⟨.ofList fieldId, .ofList assigned, by simpa using hnamed, by simpa using hplain⟩
    refine ⟨assignment, String.toList_injective ?_⟩
    rw [assignment.toList_text, htext, String.toList_ofList, String.toList_ofList]
  · rintro ⟨assignment, rfl⟩
    exact ⟨_, _, by simpa using assignment.named, assignment.plain, assignment.toList_text⟩

/-- A text is read if it is an assignment, and is the cause of a failure if it is not. -/
theorem readAssignment_cases (text : String) :
    (IsAssignment text ∧ ∃ assigned, readAssignment text = .ok assigned) ∨
      (¬IsAssignment text ∧ readAssignment text = .error (.badAssignment text)) := by
  by_cases hassigns : IsAssignment text
  · obtain ⟨assignment, rfl⟩ := isAssignment_iff.mp hassigns
    exact Or.inl ⟨hassigns, _, assignment.readAssignment_text⟩
  · refine Or.inr ⟨hassigns, ?_⟩
    by_cases hmem : '=' ∈ text.toList
    · obtain ⟨fieldId, assigned, htext, hfirst⟩ := List.eq_append_cons_of_mem hmem
      have hnameless : fieldId = [] := Classical.byContradiction fun hnamed =>
        hassigns ⟨fieldId, assigned, hnamed, hfirst, htext⟩
      rw [readAssignment, htext, Argument.splitName_append hfirst, hnameless]
      rfl
    · rw [readAssignment, Argument.splitName_of_not_mem hmem]
      rfl

namespace Workspace

/-- Values are entered up to the first text that is no assignment, and it is the cause. -/
theorem enter_eq_error_iff [PatternEngine] {cause : CommandError} (texts : List String) : ∀ editor : Editor,
    enter editor texts = .error cause ↔ ∃ text, FirstMalformed texts text ∧ cause = .badAssignment text := by
  induction texts with
  | nil =>
      refine fun editor => ⟨nofun, ?_⟩
      rintro ⟨text, hfirst, -⟩
      cases hfirst
  | cons first texts ih =>
      intro editor
      rcases readAssignment_cases first with ⟨hassigns, ⟨fieldId, value⟩, hread⟩ | ⟨hmalformed, hread⟩
      · have henter : enter editor (first :: texts) = enter (editor.setFieldValue fieldId value).2 texts := by
          rw [enter, hread]
          rfl
        rw [henter, ih]
        refine exists_congr fun text => and_congr_left fun _ => ⟨.later hassigns, ?_⟩
        intro hfirst
        cases hfirst with
        | here hmalformed => exact absurd hassigns hmalformed
        | later _ hlater => exact hlater
      · have henter : enter editor (first :: texts) = .error (.badAssignment first) := by
          rw [enter, hread]
          rfl
        rw [henter]
        constructor
        · rintro ⟨rfl⟩
          exact ⟨first, .here hmalformed, rfl⟩
        · rintro ⟨text, hfirst, rfl⟩
          cases hfirst with
          | here _ => rfl
          | later hassigns _ => exact absurd hassigns hmalformed

end Workspace

/-! ### Files -/

/-- Why something cannot be read from a file: there is no text at its path, or the text is refused. -/
inductive FileState.Fails {α : Type} (path : String) (read : String → Except Fault α)
    (refuse : Fault → CommandError) : FileState → CommandError → Prop where
  | noText {state : FileState} (hstate : state = .other ∨ state = .unreachable) :
      Fails path read refuse state (.file path)
  | refused {text : String} {fault : Fault} (hfault : read text = .error fault) :
      Fails path read refuse (.text text) (refuse fault)

namespace FileState

variable {path : String} {cause : CommandError}

theorem content?_eq_error_iff {state : FileState} : state.content? path = .error cause ↔
    (state = .other ∨ state = .unreachable) ∧ cause = .file path := by
  cases state <;> simp [content?, pure, Except.pure, throw, throwThe, MonadExceptOf.throw, eq_comm]

/-- What is made of the text of a file fails if the text is refused. -/
theorem content?_bind_eq_error_iff {α β : Type} {read : String → Except Fault α} {refuse : Fault → CommandError}
    {make : Option String → Except CommandError β} (hnone : make none ≠ .error cause)
    (hsome : ∀ text, make (some text) = .error cause ↔ ∃ fault, read text = .error fault ∧ cause = refuse fault)
    (state : FileState) : (state.content? path >>= make) = .error cause ↔ state.Fails path read refuse cause := by
  rw [bind_eq_error_iff, content?_eq_error_iff]
  constructor
  · rintro (⟨hstate, rfl⟩ | ⟨content, hcontent, hmake⟩)
    · exact .noText hstate
    · cases state with
      | absent =>
          cases hcontent
          exact absurd hmake hnone
      | text text =>
          cases hcontent
          obtain ⟨fault, hfault, rfl⟩ := (hsome text).mp hmake
          exact .refused hfault
      | other | unreachable => cases hcontent
  · intro hfails
    cases hfails with
    | noText hstate => exact Or.inl ⟨hstate, rfl⟩
    | refused hfault => exact Or.inr ⟨some _, rfl, (hsome _).mpr ⟨_, hfault, rfl⟩⟩

/-- A file that has to be there is one with a text. -/
theorem content_eq_error_iff {state : FileState} :
    state.content path = .error cause ↔ (∀ text, state ≠ .text text) ∧ cause = .file path := by
  cases state <;>
    simp [content, content?, pure, Except.pure, bind, Except.bind, throw, throwThe, MonadExceptOf.throw, eq_comm]

theorem content_eq_ok_iff {state : FileState} {text : String} : state.content path = .ok text ↔ state = .text text := by
  cases state <;>
    simp [content, content?, pure, Except.pure, bind, Except.bind, throw, throwThe, MonadExceptOf.throw]

end FileState

namespace Workspace

variable {files : Files} {path : String} {cause : CommandError}

/-- Why the form cannot be read. -/
def FormFails (files : Files) (path : String) (cause : CommandError) : Prop :=
  (files path).Fails path Form.ofText (fun fault => .editor (.parse fault)) cause

/-- Why the records cannot be read. -/
def RecordsFail (files : Files) (path : String) (cause : CommandError) : Prop :=
  (files path).Fails path Record.listOfText .records cause

theorem readForm_eq_error_iff {ids : IdSupply} :
    readForm files path ids = .error cause ↔ FormFails files path cause := by
  refine FileState.content?_bind_eq_error_iff ?_ (fun text => ?_) (files path)
  · nofun
  · cases hread : Form.ofText text with
    | ok form => simp [hread, pure, Except.pure]
    | error fault => simp [hread, throw, throwThe, MonadExceptOf.throw, eq_comm]

theorem readRecords_eq_error_iff : readRecords files path = .error cause ↔ RecordsFail files path cause := by
  refine FileState.content?_bind_eq_error_iff ?_ (fun text => ?_) (files path)
  · nofun
  · cases hread : Record.listOfText text with
    | ok records => simp [hread, Except.mapError]
    | error fault => simp [hread, Except.mapError, eq_comm]

/-- Why a workspace does not open: the form cannot be read, or else the records cannot. -/
inductive FailsToOpen (files : Files) (settings : Settings) : CommandError → Prop where
  | form {cause : CommandError} (hform : FormFails files settings.formPath cause) :
      FailsToOpen files settings cause
  | records {path : String} {cause : CommandError}
      (hform : ∀ cause, ¬FormFails files settings.formPath cause)
      (hpath : settings.recordsPath = some path) (hrecords : RecordsFail files path cause) :
      FailsToOpen files settings cause

theorem ofFiles_eq_error_iff {settings : Settings} {mode : ViewMode} {ids : IdSupply} :
    ofFiles files settings mode ids = .error cause ↔ FailsToOpen files settings cause := by
  unfold ofFiles
  rw [bind_eq_error_iff, readForm_eq_error_iff]
  constructor
  · rintro (hform | ⟨read, hform, hfailed⟩)
    · exact .form hform
    · have hlegible : ∀ cause, ¬FormFails files settings.formPath cause := by
        intro cause hfails
        cases hform.symm.trans (readForm_eq_error_iff.mpr hfails)
      cases hpath : settings.recordsPath with
      | none =>
          simp only [hpath] at hfailed
          cases hfailed
      | some path =>
          simp only [hpath, bind_eq_error_iff] at hfailed
          rcases hfailed with hrecords | ⟨_, -, hopened⟩
          · exact .records hlegible hpath (readRecords_eq_error_iff.mp hrecords)
          · simp [pure, Except.pure] at hopened
  · intro hfails
    cases hfails with
    | form hform => exact Or.inl hform
    | @records path _ hlegible hpath hrecords =>
        cases hform : readForm files settings.formPath ids with
        | error other => exact absurd (readForm_eq_error_iff.mp hform) (hlegible other)
        | ok read =>
            refine Or.inr ⟨read, rfl, ?_⟩
            simp only [hpath]
            exact bind_eq_error_iff.mpr (Or.inl (readRecords_eq_error_iff.mpr hrecords))

end Workspace

/-! ### Drops -/

/-- Where a drop of the command line goes: into a section, or else into the first one, if it is there. -/
def Form.TakesDrop (form : Form) (sectionId : Option String) (index : Option Nat) : Prop :=
  match sectionId.or (index.bind fun _ => form.sections.head?.map (·.id)) with
  | some sectionId => (form.findSection sectionId).isSome
  | none => form.sections ≠ []

/-! ### Submissions -/

theorem Editor.reports_invalid_iff [PatternEngine] {editor : Editor} {now : Time} {count : Nat} :
    (editor.submit now).1 = [.validationFailed count] ↔
      editor.mode.isEntry ∧ (editor.entry.validateAll editor.form).hasErrors ∧
        count = (editor.entry.validateAll editor.form).errors.size := by
  have hsubmits := editor.submits_submit now
  generalize editor.submit now = result at hsubmits ⊢
  cases hsubmits with
  | ignored hmode => simp [hmode]
  | refused hmode herrors => simp [hmode, herrors, eq_comm]
  | added _ hvalid | lost _ hvalid | updated _ hvalid => simp [hvalid]

namespace Workspace

variable {workspace : Workspace} {files : Files} {cause : CommandError} {command : Command}

/-- Why a command on an open workspace fails. -/
inductive Fails [PatternEngine] (workspace : Workspace) (files : Files) : Command → CommandError → Prop where
  | unknownDrop {tag : String} {sectionId : Option String} {index : Option Nat}
      (htag : ElementType.ofTag? tag = none) :
      Fails workspace files (.drop tag sectionId index) (.editor (.unknownType tag))
  | undefinedDrop {tag : String} {type : ElementType} {sectionId : Option String} {index : Option Nat}
      (htag : ElementType.ofTag? tag = some type) (hplace : workspace.editor.form.TakesDrop sectionId index)
      (hundefined : workspace.editor.form.registry.get? type = none) :
      Fails workspace files (.drop tag sectionId index) (.editor (.unknownType type.tag))
  | unknownMorph {elementId tag : String} (htag : ElementType.ofTag? tag = none) :
      Fails workspace files (.morph elementId tag) (.editor (.unknownType tag))
  | undefinedMorph {elementId tag : String} {type : ElementType} (htag : ElementType.ofTag? tag = some type)
      (helement : (workspace.editor.form.findElement elementId).isSome)
      (hundefined : workspace.editor.form.registry.get? type = none) :
      Fails workspace files (.morph elementId tag) (.editor (.unknownType type.tag))
  | unstoredSubmission {assignments : List String} {record : Option RecordId}
      (hpath : workspace.recordsPath = none) :
      Fails workspace files (.submit assignments record) .noRecordsFile
  | malformedAssignment {assignments : List String} {record : Option RecordId} {text : String}
      (hpath : workspace.recordsPath.isSome) (hfirst : FirstMalformed assignments text) :
      Fails workspace files (.submit assignments record) (.badAssignment text)
  | invalidSubmission {assignments : List String} {record : Option RecordId} {entered : Editor}
      (hpath : workspace.recordsPath.isSome)
      (hentered : enter (openEntry workspace.editor record) assignments = .ok entered)
      (hentry : entered.mode.isEntry) (herrors : (entered.entry.validateAll entered.form).hasErrors) :
      Fails workspace files (.submit assignments record)
        (.invalidFields (entered.entry.validateAll entered.form).errors.size)
  | unstoredDeletion {id : RecordId} (hpath : workspace.recordsPath = none) :
      Fails workspace files (.deleteRecord id) .noRecordsFile
  | illegibleSync {path : String} {record : Option RecordId} (hfile : ∀ text, files path ≠ .text text) :
      Fails workspace files (.sync path record) (.file path)
  | unstoredSync {path text : String} {id : RecordId} (hfile : files path = .text text)
      (hpath : workspace.recordsPath = none) : Fails workspace files (.sync path (some id)) .noRecordsFile

theorem requireRecords_eq_error_iff :
    workspace.requireRecords = .error cause ↔ workspace.recordsPath = none ∧ cause = .noRecordsFile := by
  unfold requireRecords
  cases workspace.recordsPath with
  | none => simp [throw, throwThe, MonadExceptOf.throw, eq_comm]
  | some path => simp [pure, Except.pure]

theorem requireRecords_eq_ok_iff : workspace.requireRecords = .ok () ↔ workspace.recordsPath.isSome := by
  unfold requireRecords
  cases workspace.recordsPath with
  | none => simp [throw, throwThe, MonadExceptOf.throw]
  | some path => simp [pure, Except.pure]

theorem saveResult_eq_error_iff {done : Except EditError (List Action) × Editor} {nothing : String} :
    workspace.saveResult done nothing = .error cause ↔ ∃ fault, done.1 = .error fault ∧ cause = .editor fault := by
  obtain ⟨result, editor⟩ := done
  cases result with
  | ok actions => simp [saveResult, pure, Except.pure]
  | error fault => simp [saveResult, throw, throwThe, MonadExceptOf.throw, eq_comm]

theorem drop_of_none {tag : String} (htag : ElementType.ofTag? tag = none) (sectionId : Option String)
    (index : Option Nat) : workspace.drop tag sectionId index = .error (.editor (.unknownType tag)) := by
  rw [drop, ElementType.ofName_of_none htag]
  rfl

/-- A drop of a known type fails only where there is a place for it. -/
theorem drop_eq_error_iff_of_some {tag : String} {type : ElementType} (htag : ElementType.ofTag? tag = some type)
    (sectionId : Option String) (index : Option Nat) :
    workspace.drop tag sectionId index = .error cause ↔
      workspace.editor.form.TakesDrop sectionId index ∧ workspace.editor.form.registry.get? type = none ∧
        cause = .editor (.unknownType type.tag) := by
  rw [drop, ElementType.ofName_of_some htag]
  refine saveResult_eq_error_iff.trans ?_
  -- the data names the type, so it does not matter what is being dragged
  have hresolves : ∀ (drag : Drag) (fault : EditError), (∃ other, drag.Resolves (.ofType type) other ∧
      workspace.editor.form.registry.Lacks other fault) ↔ workspace.editor.form.registry.Lacks type fault := by
    intro drag fault
    simp only [Drag.resolves_ofType_iff, exists_eq_left]
  have hplaced : ∀ place : Prop,
      (∃ fault, (place ∧ workspace.editor.form.registry.Lacks type fault) ∧ cause = .editor fault) ↔
        place ∧ workspace.editor.form.registry.get? type = none ∧ cause = .editor (.unknownType type.tag) := by
    intro place
    constructor
    · rintro ⟨_, ⟨hplace, hundefined, rfl⟩, hcause⟩
      exact ⟨hplace, hundefined, hcause⟩
    · rintro ⟨hplace, hundefined, hcause⟩
      exact ⟨_, ⟨hplace, hundefined, rfl⟩, hcause⟩
  unfold Form.TakesDrop
  rw [← hplaced]
  refine exists_congr fun fault => and_congr_left fun _ => ?_
  cases sectionId.or (index.bind fun _ => workspace.editor.form.sections.head?.map (·.id)) with
  | none =>
      refine Editor.dropOnCanvas_eq_error_iff.trans (and_congr_right fun _ => ?_)
      exact (or_iff_right (TransferData.not_misnames_ofType type fault)).trans (hresolves _ fault)
  | some sectionId =>
      refine Editor.drop_eq_error_iff.trans ?_
      exact (or_iff_right (TransferData.not_misnames_ofType type fault)).trans
        (and_congr_right fun _ => hresolves _ fault)

theorem fails_drop_iff [PatternEngine] {tag : String} {sectionId : Option String} {index : Option Nat} :
    workspace.drop tag sectionId index = .error cause ↔
      workspace.Fails files (.drop tag sectionId index) cause := by
  cases htag : ElementType.ofTag? tag with
  | none =>
      rw [drop_of_none htag]
      constructor
      · rintro ⟨rfl⟩
        exact .unknownDrop htag
      · intro hfails
        cases hfails with
        | unknownDrop => rfl
        | undefinedDrop hsome => cases htag.symm.trans hsome
  | some type =>
      rw [drop_eq_error_iff_of_some htag]
      constructor
      · rintro ⟨hplace, hundefined, rfl⟩
        exact .undefinedDrop htag hplace hundefined
      · intro hfails
        cases hfails with
        | unknownDrop hnone => cases htag.symm.trans hnone
        | undefinedDrop hsome hplace hundefined =>
            cases htag.symm.trans hsome
            exact ⟨hplace, hundefined, rfl⟩

theorem fails_morph_iff [PatternEngine] {elementId tag : String} :
    workspace.morph elementId tag = .error cause ↔ workspace.Fails files (.morph elementId tag) cause := by
  cases htag : ElementType.ofTag? tag with
  | none =>
      rw [morph, ElementType.ofName_of_none htag]
      constructor
      · rintro ⟨rfl⟩
        exact .unknownMorph htag
      · intro hfails
        cases hfails with
        | unknownMorph => rfl
        | undefinedMorph hsome => cases htag.symm.trans hsome
  | some type =>
      rw [morph, ElementType.ofName_of_some htag]
      refine saveResult_eq_error_iff.trans ?_
      simp only [Editor.morphElement_eq_error_iff]
      constructor
      · rintro ⟨_, ⟨helement, hundefined, rfl⟩, rfl⟩
        exact .undefinedMorph htag helement hundefined
      · intro hfails
        cases hfails with
        | unknownMorph hnone => cases htag.symm.trans hnone
        | undefinedMorph hsome helement hundefined =>
            cases htag.symm.trans hsome
            exact ⟨_, ⟨helement, hundefined, rfl⟩, rfl⟩

theorem fails_submit_iff [PatternEngine] {assignments : List String} {record : Option RecordId} :
    workspace.submit assignments record = .error cause ↔
      workspace.Fails files (.submit assignments record) cause := by
  unfold submit
  rw [bind_eq_error_iff, requireRecords_eq_error_iff]
  simp only [bind_eq_error_iff, enter_eq_error_iff]
  constructor
  · rintro (⟨hpath, rfl⟩ | ⟨⟨⟩, hstored, ⟨text, hfirst, rfl⟩ | ⟨entered, hentered, hsubmitted⟩⟩)
    · exact .unstoredSubmission hpath
    · exact .malformedAssignment (requireRecords_eq_ok_iff.mp hstored) hfirst
    · split at hsubmitted
      · rename_i count next hinvalid
        obtain ⟨hentry, herrors, rfl⟩ := Editor.reports_invalid_iff.mp (congrArg Prod.fst hinvalid)
        cases hsubmitted
        exact .invalidSubmission (requireRecords_eq_ok_iff.mp hstored) hentered hentry herrors
      · cases hsubmitted
  · intro hfails
    cases hfails with
    | unstoredSubmission hpath => exact Or.inl ⟨hpath, rfl⟩
    | malformedAssignment hpath hfirst =>
        exact Or.inr ⟨(), requireRecords_eq_ok_iff.mpr hpath, Or.inl ⟨_, hfirst, rfl⟩⟩
    | @invalidSubmission _ _ entered hpath hentered hentry herrors =>
        refine Or.inr ⟨(), requireRecords_eq_ok_iff.mpr hpath, Or.inr ⟨entered, hentered, ?_⟩⟩
        have hinvalid : (entered.submit 0).1 = [.validationFailed _] :=
          Editor.reports_invalid_iff.mpr ⟨hentry, herrors, rfl⟩
        have hsubmit : entered.submit 0 = ([.validationFailed _], (entered.submit 0).2) := Prod.ext hinvalid rfl
        rw [hsubmit]
        rfl

theorem syncRecord_eq_error_iff {id : RecordId} {text : String} :
    workspace.syncRecord id text = .error cause ↔ workspace.recordsPath = none ∧ cause = .noRecordsFile := by
  rw [← requireRecords_eq_error_iff, syncRecord, bind_eq_error_iff]
  exact or_iff_left fun hsynced => by simp [pure, Except.pure] at hsynced

/-- **A command on an open workspace fails for these causes and no others.** -/
theorem run_eq_error_iff [PatternEngine] :
    workspace.run files command = .error cause ↔ workspace.Fails files command cause := by
  cases command with
  | drop tag sectionId index => exact fails_drop_iff
  | morph elementId tag => exact fails_morph_iff
  | submit assignments record => exact fails_submit_iff
  | deleteRecord id =>
      unfold run deleteRecord
      rw [bind_eq_error_iff, requireRecords_eq_error_iff]
      constructor
      · rintro (⟨hpath, rfl⟩ | ⟨-, -, hdeleted⟩)
        · exact .unstoredDeletion hpath
        · cases hdeleted
      · intro hfails
        cases hfails with
        | unstoredDeletion hpath => exact Or.inl ⟨hpath, rfl⟩
  | sync path record =>
      unfold run
      rw [bind_eq_error_iff, FileState.content_eq_error_iff]
      simp only [FileState.content_eq_ok_iff]
      constructor
      · rintro (⟨hfile, rfl⟩ | ⟨text, hfile, hsynced⟩)
        · exact .illegibleSync hfile
        · cases record with
          | none => cases hsynced
          | some id =>
              obtain ⟨hpath, rfl⟩ := syncRecord_eq_error_iff.mp hsynced
              exact .unstoredSync hfile hpath
      · intro hfails
        cases hfails with
        | illegibleSync hfile => exact Or.inl ⟨hfile, rfl⟩
        | unstoredSync hfile hpath => exact Or.inr ⟨_, hfile, syncRecord_eq_error_iff.mpr ⟨hpath, rfl⟩⟩
  | palette | delete | duplicate | moveRow | rename | render => exact ⟨nofun, nofun⟩

end Workspace

/-! ### Invocations -/

/-- Writing fails only for a file that cannot be written. -/
theorem Folder.exists_path_of_write {cause : CommandError} (writes : List (String × String)) :
    ∀ {folder : Folder}, (folder.write writes).1 = .error cause → ∃ path, cause = .file path := by
  induction writes with
  | nil => exact fun hwrite => by cases hwrite
  | cons first writes ih =>
      intro folder hwrite
      unfold write at hwrite
      split at hwrite
      · exact ih hwrite
      · cases hwrite
        exact ⟨first.1, rfl⟩

namespace Invocation

/-- Why an invocation fails before anything is saved. -/
inductive Fails [PatternEngine] (invocation : Invocation) (files : Files) (ids : IdSupply) : CommandError → Prop where
  | alreadyExists {name : Option String} (hrequest : invocation.request = .new name false)
      (hpresent : (files invocation.settings.formPath).isPresent) :
      Fails invocation files ids (.alreadyExists invocation.settings.formPath)
  | opening {command : Command} {cause : CommandError} (hrequest : invocation.request = .command command)
      (hopen : Workspace.FailsToOpen files invocation.settings cause) : Fails invocation files ids cause
  | command {command : Command} {workspace : Workspace} {cause : CommandError}
      (hrequest : invocation.request = .command command)
      (hopen : Workspace.ofFiles files invocation.settings (initialMode command) ids = .ok workspace)
      (hfails : workspace.Fails files command cause) : Fails invocation files ids cause

variable {invocation : Invocation} {files : Files} {ids : IdSupply} {cause : CommandError}

theorem create_eq_error_iff {path : String} {name : Option String} {force : Bool} :
    create files path name force ids = .error cause ↔
      (files path).isPresent ∧ force = false ∧ cause = .alreadyExists path := by
  unfold create
  by_cases hpresent : (files path).isPresent = true
  · cases force with
    | false => simp [hpresent, throw, throwThe, MonadExceptOf.throw, eq_comm]
    | true => simp [hpresent, pure, Except.pure]
  · simp [hpresent, pure, Except.pure]

theorem run_eq_error_iff [PatternEngine] :
    invocation.run files ids = .error cause ↔ invocation.Fails files ids cause := by
  unfold run
  cases hrequest : invocation.request with
  | new name force =>
      refine create_eq_error_iff.trans ⟨?_, ?_⟩
      · rintro ⟨hpresent, rfl, rfl⟩
        exact .alreadyExists hrequest hpresent
      · intro hfails
        cases hfails with
        | alreadyExists hnew hpresent =>
            cases hrequest.symm.trans hnew
            exact ⟨hpresent, rfl, rfl⟩
        | opening hcommand => cases hrequest.symm.trans hcommand
        | command hcommand => cases hrequest.symm.trans hcommand
  | command command =>
      refine bind_eq_error_iff.trans ?_
      rw [Workspace.ofFiles_eq_error_iff]
      constructor
      · rintro (hopen | ⟨workspace, hopen, hfails⟩)
        · exact .opening hrequest hopen
        · exact .command hrequest hopen (Workspace.run_eq_error_iff.mp hfails)
      · intro hfails
        cases hfails with
        | alreadyExists hnew => cases hrequest.symm.trans hnew
        | opening hcommand hopen => exact Or.inl hopen
        | command hcommand hopen hfails =>
            cases hrequest.symm.trans hcommand
            exact Or.inr ⟨_, hopen, Workspace.run_eq_error_iff.mpr hfails⟩

theorem runIn_of_fails [PatternEngine] {folder : Folder} (hfails : invocation.Fails folder.look ids cause) :
    invocation.runIn folder ids = (.error cause, 0, folder, ids) := by
  rw [runIn, run_eq_error_iff.mpr hfails]

/-- An error is one that comes before saving, or is about a file. -/
theorem fails_of_runIn [PatternEngine] {folder : Folder} (herror : (invocation.runIn folder ids).1 = .error cause)
    (hother : ∀ path, cause ≠ .file path) : invocation.Fails folder.look ids cause := by
  cases hrun : invocation.run folder.look ids with
  | error other =>
      have hfails := run_eq_error_iff.mp hrun
      rw [runIn_of_fails hfails] at herror
      cases herror
      exact hfails
  | ok report =>
      have hwrite : (folder.write report.writes).1 = .error cause := by
        simp only [runIn, hrun] at herror
        cases hwritten : (folder.write report.writes).1 with
        | error other =>
            rw [hwritten] at herror
            cases herror
            rfl
        | ok written =>
            rw [hwritten] at herror
            cases herror
      obtain ⟨path, hpath⟩ := Folder.exists_path_of_write report.writes hwrite
      exact absurd hpath (hother path)

/-- A submission with a text that is no assignment fails, wherever in the list it stands. -/
theorem exists_fails_of_malformed [PatternEngine] {assignments : List String} {record : Option RecordId}
    (hrequest : invocation.request = .command (.submit assignments record))
    (hmalformed : ∃ text ∈ assignments, ¬IsAssignment text) : ∃ cause, invocation.Fails files ids cause := by
  cases hopen : Workspace.ofFiles files invocation.settings .editor ids with
  | error cause => exact ⟨cause, .opening hrequest (Workspace.ofFiles_eq_error_iff.mp hopen)⟩
  | ok workspace =>
      cases hpath : workspace.recordsPath with
      | none => exact ⟨.noRecordsFile, .command hrequest hopen (.unstoredSubmission hpath)⟩
      | some path =>
          have hstored : workspace.recordsPath.isSome := by rw [hpath]; rfl
          obtain ⟨text, hfirst⟩ := exists_firstMalformed hmalformed
          exact ⟨.badAssignment text, .command hrequest hopen (.malformedAssignment hstored hfirst)⟩

/-- **A command that fails leaves the files alone.** It fails with an error other than one about a file if and only
if there is a cause for that before anything is saved: a new form that is there already and not forced, a form
or records that are refused, a type that is unknown or has no definition, no records file for a command that
stores records, an assignment that is malformed, or an entry that is not valid. No file is created or changed
then. A submission in whose list of assignments any text is malformed fails, and creates or changes no file
either. -/
theorem failing_command_keeps_files [PatternEngine] (invocation : Invocation) (folder : Folder) (ids : IdSupply) :
    let answer := (invocation.runIn folder ids).1
    (∀ cause, invocation.Fails folder.look ids cause →
      answer = .error cause ∧ invocation.leaves folder ids = folder) ∧
    (∀ cause, answer = .error cause → (∀ path, cause ≠ .file path) →
      invocation.Fails folder.look ids cause ∧ invocation.leaves folder ids = folder) ∧
    ∀ assignments record, invocation.request = .command (.submit assignments record) →
      (∃ text ∈ assignments, ¬IsAssignment text) →
      (∃ cause, answer = .error cause) ∧ invocation.leaves folder ids = folder := by
  intro answer
  have hkept : ∀ cause, invocation.Fails folder.look ids cause →
      answer = .error cause ∧ invocation.leaves folder ids = folder := by
    intro cause hfails
    have hrun := runIn_of_fails hfails
    exact ⟨congrArg (·.1) hrun, congrArg (·.2.2.1) hrun⟩
  refine ⟨hkept, ?_, ?_⟩
  · intro cause herror hother
    have hfails := fails_of_runIn herror hother
    exact ⟨hfails, (hkept cause hfails).2⟩
  · intro assignments record hrequest hmalformed
    obtain ⟨cause, hfails⟩ := exists_fails_of_malformed hrequest hmalformed
    exact ⟨⟨cause, (hkept cause hfails).1⟩, (hkept cause hfails).2⟩

/-- The second of two assignments is malformed: the first one is not stored either. -/
theorem second_assignment_malformed :
    let submission := { submitSeven "a" with request := .command (.submit ["a=7", "b"] none) }
    (submission.runIn (oneFieldFolder "a") ⟨0⟩).1 = .error (.badAssignment "b") ∧
      submission.leaves (oneFieldFolder "a") ⟨0⟩ = oneFieldFolder "a" := by
  intro submission
  have hassigns : IsAssignment "a=7" := ⟨['a'], ['7'], by decide, by decide, by decide⟩
  have hmalformed : ¬IsAssignment "b" := by
    rintro ⟨fieldId, assigned, -, -, htext⟩
    have hmem : '=' ∈ "b".toList := htext ▸ List.mem_append_right _ List.mem_cons_self
    exact absurd hmem (by decide)
  have hfails : (oneFieldWorkspace "a").Fails (oneFieldFolder "a").look (.submit ["a=7", "b"] none)
      (.badAssignment "b") := .malformedAssignment rfl (.later hassigns (.here hmalformed))
  exact (failing_command_keeps_files submission (oneFieldFolder "a") ⟨0⟩).1 _
    (.command rfl (ofFiles_oneFieldFolder "a") hfails)

end Invocation

end FormEditor
