import FormEditor.CommandLine.Workspace
import FormEditor.Editor.Structure
import FormEditor.Pattern.Standard
import FormEditor.Registry.Glyph
import FormEditor.View.Outline
import FormEditor.View.Projection

/-! A command reads its files, lets the editor do what it asks for, and reports what came of it together with
what is to be saved. A command that fails saves nothing. The values of a submission are validated with any
engine for patterns; the program takes the standard one. -/

namespace FormEditor

/-- An action of the editor in words, if a command can bring it about. -/
def Action.caption? : Action → Option String
  | .elementCreated elementId sectionId rowIndex => some s!"created {elementId} in {sectionId} at row {rowIndex}"
  | .elementDeleted elementId rowsRemoved => some s!"deleted {elementId} ({rowsRemoved} row(s))"
  | .elementDuplicated sourceId elementId => some s!"duplicated {sourceId} as {elementId}"
  | .elementUpdated elementId => some s!"updated {elementId}"
  | .rowMoved rowId => some s!"moved {rowId}"
  | .formRenamed name => some s!"renamed to {name}"
  | .recordSubmitted id => some s!"record {id.text} submitted"
  | .recordUpdated id => some s!"record {id.text} updated"
  | .recordDeleted id => some s!"record {id.text} deleted"
  | _ => none

/-- The lines of a list of texts. -/
def Text.joinLines (lines : List String) : String :=
  "\n".intercalate lines

/-- The palette as lines, every group under its category. -/
def PaletteGroup.lines (group : PaletteGroup) : List String :=
  group.category :: group.entries.map fun entry =>
    let padding := String.ofList (List.replicate (20 - entry.type.tag.length) ' ')
    s!"  {glyph entry.icon} {entry.type.tag}{padding} {entry.name}"

/-- A value assigned to a field: the text after the first `=` as JSON, or as it stands if it is not JSON. -/
def Json.ofAssigned (text : String) : Json :=
  (decodeText (Node.json 0) text).toOption.getD (.string text)

/-- A field and the value that is assigned to it. -/
def readAssignment (text : String) : Except CommandError (String × Json) :=
  match Argument.splitName text.toList with
  | (fieldId, some assigned) =>
    if fieldId.isEmpty then throw (.badAssignment text) else pure (fieldId, Json.ofAssigned assigned)
  | (_, none) => throw (.badAssignment text)

variable [PatternEngine]

namespace Workspace

/-- Saves what the editor did, or did not. -/
def saveActions (workspace : Workspace) (done : List Action × Editor) (nothing : String) : Report :=
  let message := if done.1.isEmpty then nothing else Text.joinLines (done.1.filterMap Action.caption?)
  (workspace.withEditor done.2).saved message 0

/-- Saves what the editor did, unless it failed. -/
def saveResult (workspace : Workspace) (done : Except EditError (List Action) × Editor) (nothing : String) :
    Except CommandError Report :=
  match done with
  | (.ok actions, editor) => pure (workspace.saveActions (actions, editor) nothing)
  | (.error cause, _) => throw (.editor cause)

def palette (workspace : Workspace) (search : String) : Report :=
  let groups := workspace.editor.form.registry.searchPalette search
  workspace.unsaved (Text.joinLines (groups.flatMap PaletteGroup.lines)) 0

/-- Drops a new element of a type. An index without a section counts in the first section; a section without
an index, or neither, means the end. -/
def drop (workspace : Workspace) (tag : String) (sectionId : Option String) (index : Option Nat) :
    Except CommandError Report := do
  let type ← (ElementType.ofName tag).mapError .editor
  let (data, editor) := workspace.editor.dragStart type
  let form := editor.form
  let target := sectionId.or (index.bind fun _ => form.sections.head?.map (·.id))
  let done := match target with
    | none => editor.dropOnCanvas data 0
    | some sectionId =>
      let rowCount := ((form.findSection sectionId).map (·.rows.length)).getD 0
      let zone : DropZone := ⟨sectionId, index.getD rowCount⟩
      (editor.dragOver zone).drop zone data 0
  workspace.saveResult done "nothing placed"

def morph (workspace : Workspace) (elementId tag : String) : Except CommandError Report := do
  let type ← (ElementType.ofName tag).mapError .editor
  workspace.saveResult (workspace.editor.morphElement elementId type 0) "no such element"

def rename (workspace : Workspace) (name : String) : Report :=
  let (action, editor) := workspace.editor.rename name 0
  workspace.saveActions ([action], editor) ""

/-- Shows a mode. -/
def render (workspace : Workspace) (mode : ViewMode) (record : Option RecordId) : Report :=
  let opened := match record with
    | some id => (workspace.editor.pressButton id .view 0).2
    | none => workspace.editor
  let shown := (opened.setMode mode).2
  (workspace.withEditor shown).unsaved shown.project.outline 0

/-- Enters values one after another, up to the first text that is no assignment. -/
def enter (editor : Editor) : List String → Except CommandError Editor
  | [] => pure editor
  | text :: texts => do
    let (fieldId, value) ← readAssignment text
    enter (editor.setFieldValue fieldId value).2 texts

/-- Starts the entry for a record, or for a new one. -/
def openEntry (editor : Editor) : Option RecordId → Editor
  | some id => (editor.pressButton id .update 0).2
  | none => (editor.setMode .add).2

def submit (workspace : Workspace) (assignments : List String) (record : Option RecordId) :
    Except CommandError Report := do
  workspace.requireRecords
  let entered ← enter (openEntry workspace.editor record) assignments
  match entered.submit 0 with
  | ([.validationFailed count], _) => throw (.invalidFields count)
  | done => pure (workspace.saveActions done "nothing submitted")

def deleteRecord (workspace : Workspace) (id : RecordId) : Except CommandError Report := do
  workspace.requireRecords
  pure (workspace.saveActions (workspace.editor.pressButton id .delete 0) "no such record")

/-- Takes the form from a text, as if the text had been typed. -/
def syncForm (workspace : Workspace) (text : String) : Report :=
  let settled := (workspace.editor.formTextChanged text 0).settle 0
  let workspace := workspace.withEditor settled.2.2
  if .documentReplaced ∈ settled.1 then
    let sections := Decimal.string workspace.editor.form.sections.length
    workspace.saved s!"applied: {sections} section(s)" settled.2.1
  else workspace.unsaved "rejected: text did not parse; document unchanged" settled.2.1

/-- The record that was replaced by an edit of its text. -/
def replacedRecord? (actions : List Action) : Option RecordId :=
  actions.findSome? fun
    | .recordReplaced id => some id
    | _ => none

/-- Takes a record from a text, as if the text had been typed while another one was shown. -/
def syncRecord (workspace : Workspace) (id : RecordId) (text : String) : Except CommandError Report := do
  workspace.requireRecords
  let shown := ((workspace.editor.pressButton id .view 0).2.setMode .formDataJson).2
  let settled := (shown.recordTextChanged text 0).settle 0
  let workspace := workspace.withEditor settled.2.2
  pure (match replacedRecord? settled.1 with
    | some id => workspace.saved s!"applied: record {id.text}" settled.2.1
    | none => workspace.unsaved "rejected: text did not parse or names no stored record" settled.2.1)

/-- Does what a command asks for. -/
def run (workspace : Workspace) (files : Files) : Command → Except CommandError Report
  | .palette search => pure (workspace.palette search)
  | .drop tag sectionId index => workspace.drop tag sectionId index
  | .delete elementId =>
    pure (workspace.saveActions (workspace.editor.deleteElement elementId 0) "no such element")
  | .duplicate elementId =>
    pure (workspace.saveActions (workspace.editor.duplicateElement elementId 0) "no such element")
  | .morph elementId tag => workspace.morph elementId tag
  | .moveRow rowId direction =>
    pure (workspace.saveActions (workspace.editor.moveRow rowId direction 0) "row not moved")
  | .rename name => pure (workspace.rename name)
  | .render mode record => pure (workspace.render mode record)
  | .submit assignments record => workspace.submit assignments record
  | .deleteRecord id => workspace.deleteRecord id
  | .sync path record => do
    let text ← (files path).content path
    match record with
    | some id => workspace.syncRecord id text
    | none => pure (workspace.syncForm text)

end Workspace

namespace Invocation

/-- Writes a new form. -/
def create (files : Files) (path : String) (name : Option String) (force : Bool) (ids : IdSupply) :
    Except CommandError Report :=
  if (files path).isPresent ∧ ¬ force then throw (.alreadyExists path)
  else
    let (form, ids) := Form.start ids
    let form := name.elim form form.rename
    pure ⟨s!"created {path} ({form.config.uid})", some ⟨path, form, none⟩, 0, ids⟩

/-- The mode that an editor is started in for a command. -/
def initialMode : Command → ViewMode
  | .render mode _ => mode
  | _ => .editor

/-- Runs a command on the files as they stand. -/
def run (invocation : Invocation) (files : Files) (ids : IdSupply) : Except CommandError Report :=
  match invocation.request with
  | .new name force => create files invocation.settings.formPath name force ids
  | .command command => do
    let workspace ← Workspace.ofFiles files invocation.settings (initialMode command) ids
    workspace.run files command

/-- Runs a command in a folder: its answer, how long it waited, and what it leaves. -/
def runIn (invocation : Invocation) (folder : Folder) (ids : IdSupply) :
    Except CommandError String × Time × Folder × IdSupply :=
  match invocation.run folder.look ids with
  | .error cause => (.error cause, 0, folder, ids)
  | .ok report =>
    let (written, folder) := folder.write report.writes
    (written.map fun _ => report.message, report.waited, folder, report.ids)

end Invocation

end FormEditor
