import FormEditor.CommandLine.Command
import FormEditor.CommandLine.Folder
import FormEditor.Editor.Sync

/-! A workspace is an editor over the form and the records of two files. A form file that is absent counts as a
new form, a records file that is absent as one without records. -/

namespace FormEditor

/-- What is saved: a form and, where records are kept, the records, each with the path of its file. -/
structure Saving where
  formPath : String
  form : Form
  records : Option (String × List Record)
  deriving DecidableEq

/-- The texts that saving writes, in their order. -/
def Saving.texts (saving : Saving) : List (String × String) :=
  (saving.formPath, saving.form.text) ::
    saving.records.toList.map fun (path, records) => (path, Record.listText records)

/-- What a command gives: the text it answers with, what is to be saved, and how long it waited. -/
structure Report where
  message : String
  saving : Option Saving
  waited : Time
  ids : IdSupply
  deriving DecidableEq

/-- The files that are to be written. -/
def Report.writes (report : Report) : List (String × String) :=
  report.saving.elim [] Saving.texts

structure Workspace where
  formPath : String
  recordsPath : Option String
  editor : Editor
  deriving DecidableEq

namespace Workspace

/-- The form of a file, with a supply of ids for what is to come. -/
def readForm (files : Files) (path : String) (ids : IdSupply) : Except CommandError (Form × IdSupply) := do
  match ← (files path).content? path with
  | none => pure (Form.start ids)
  | some text =>
    match Form.ofText text with
    | .ok form => pure (form, ids)
    | .error fault => throw (.editor (.parse fault))

/-- The records of a file. -/
def readRecords (files : Files) (path : String) : Except CommandError (List Record) := do
  match ← (files path).content? path with
  | none => pure []
  | some text => (Record.listOfText text).mapError .records

/-- Starts an editor on the files that the settings name. -/
def ofFiles (files : Files) (settings : Settings) (initialMode : ViewMode) (ids : IdSupply) :
    Except CommandError Workspace := do
  let (form, ids) ← readForm files settings.formPath ids
  let editor := Editor.start form (settings.config initialMode) ids 0
  let editor ← match settings.recordsPath with
    | none => pure editor
    | some path => do pure (editor.loadRecords (← readRecords files path) 0)
  pure ⟨settings.formPath, settings.recordsPath, editor⟩

/-- The form and the records as they are. -/
def saving (workspace : Workspace) : Saving where
  formPath := workspace.formPath
  form := workspace.editor.form
  records := workspace.recordsPath.map fun path => (path, workspace.editor.records.records)

/-- A report that saves nothing. -/
def unsaved (workspace : Workspace) (message : String) (waited : Time) : Report :=
  ⟨message, none, waited, workspace.editor.ids⟩

def saved (workspace : Workspace) (message : String) (waited : Time) : Report :=
  ⟨message, some workspace.saving, waited, workspace.editor.ids⟩

def withEditor (workspace : Workspace) (editor : Editor) : Workspace :=
  { workspace with editor }

/-- What is done with records is stored. -/
def requireRecords (workspace : Workspace) : Except CommandError Unit :=
  if workspace.recordsPath.isSome then pure () else throw .noRecordsFile

end Workspace

end FormEditor
