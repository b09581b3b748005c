import FormEditor.Editor.Basic

/-! A change of the mode starts the entry that the mode asks for. A record of the list is looked at, updated or
deleted; the record that is looked at or updated is the selected one, and its text is shown. -/

namespace FormEditor.Editor

variable [PatternEngine]

/-- Replaces the records. None of them is selected. -/
def loadRecords (editor : Editor) (records : List Record) (now : Time) : Editor :=
  { editor with records := .ofList records }.publishRecord now

/-- The entry that a mode starts with: a blank one to add a record, the values of the selected record to
update it. -/
def startEntry (editor : Editor) (mode : ViewMode) : Entry :=
  match mode with
  | .add => .blank
  | .update => (editor.records.selected.map Entry.ofRecord).getD .blank
  | _ => editor.entry

/-- Changes the mode. Overlays belong to the mode in which the form is built. -/
def setMode (editor : Editor) (mode : ViewMode) : Action × Editor :=
  (.modeChanged mode,
    { editor with
      mode
      overlay := if mode = .editor then editor.overlay else none
      entry := editor.startEntry mode })

/-- Puts a record that was read from its text in place of the stored one of its id. -/
def adoptRecord (editor : Editor) (record : Record) : Option Action × Editor :=
  match editor.records.replace record with
  | .ok records => (some (.recordReplaced record.id), { editor with records })
  | .error _ => (none, editor)

/-- Takes up what came of the bridge of the record text. -/
def adoptOutcome (editor : Editor) (outcome : SyncOutcome Record) : List Action × Editor :=
  match outcome with
  | .applied record =>
    let (action, next) := editor.adoptRecord record
    (action.toList, next)
  | .pushed => ([.textPushed .formDataJson], editor)
  | .idle | .rejected => ([], editor)

/-- Settles the text that was typed for the record selected before, and shows the selected one. -/
def switchRecordText (editor : Editor) : List Action × Editor :=
  let (outcome, recordBridge) := editor.recordBridge.flush
  let (actions, next) := { editor with recordBridge }.adoptOutcome outcome
  match next.records.selected with
  | some record => (actions, { next with recordBridge := next.recordBridge.showModel record })
  | none => (actions, next)

/-- Selects a record and shows it in a mode. -/
def openRecord (editor : Editor) (id : RecordId) (mode : ViewMode) (now : Time) : List Action × Editor :=
  match editor.records.select id with
  | .error _ => ([], editor)
  | .ok (_, records) =>
    let chosen := { editor with records }
    let (settled, shown) : List Action × Editor :=
      if editor.records.selectedId = some id then ([], chosen.publishRecord now) else chosen.switchRecordText
    let (changed, next) := shown.setMode mode
    (settled ++ [.recordSelected id, changed], next)

def deleteRecord (editor : Editor) (id : RecordId) : List Action × Editor :=
  match editor.records.delete id with
  | none => ([], editor)
  | some (_, records) =>
    let next := { editor with records }
    if editor.records.selectedId = some id ∧ editor.mode.needsRecord then
      let (changed, next) := next.setMode .list
      ([.recordDeleted id, changed], next)
    else ([.recordDeleted id], next)

/-- Presses a button of a record in the list. -/
def pressButton (editor : Editor) (id : RecordId) (button : ListButton) (now : Time) :
    List Action × Editor :=
  match button with
  | .view => editor.openRecord id .view now
  | .update => editor.openRecord id .update now
  | .delete => editor.deleteRecord id

/-- Enters the value of a field. -/
def setFieldValue (editor : Editor) (fieldId : String) (value : Json) : Option Action × Editor :=
  match editor.mode.isEntry, editor.form.findField fieldId with
  | true, some field =>
    (some (.entryChanged fieldId), { editor with entry := editor.entry.setValue field value })
  | _, _ => (none, editor)

/-- Adds the entry as a new record. -/
def addRecord (editor : Editor) : List Action × Editor :=
  let (id, records) := editor.records.insert editor.entry.values
  ([.recordSubmitted id], { editor with records, entry := .blank })

/-- Gives the selected record the values of the entry. -/
def updateRecord (editor : Editor) (now : Time) : List Action × Editor :=
  match editor.records.selectedId with
  | none => ([], editor)
  | some id =>
    match editor.records.update id editor.entry.values with
    | .ok records => ([.recordUpdated id], { editor with records }.publishRecord now)
    | .error _ => ([], editor)

/-- Submits the entry, unless a field is not valid. -/
def submit (editor : Editor) (now : Time) : List Action × Editor :=
  if editor.mode.isEntry then
    let entry := editor.entry.validateAll editor.form
    let validated := { editor with entry }
    if entry.hasErrors then ([.validationFailed entry.errors.size], validated)
    else if editor.mode = .add then validated.addRecord
    else validated.updateRecord now
  else ([], editor)

end FormEditor.Editor
