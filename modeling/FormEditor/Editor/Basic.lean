import FormEditor.Drag
import FormEditor.Editor.Action
import FormEditor.Entry
import FormEditor.Overlay
import FormEditor.Record.Store
import FormEditor.Sync.Bridge

/-! The editor holds a form, the records that were submitted with it, and what is being done with both: a drag,
an overlay, an entry, and the texts of the form and of the selected record. Every change of the form and of
the selected record is handed to the bridge of its text, except a change that came from there. -/

namespace FormEditor

structure Editor where
  form : Form
  records : RecordStore
  drag : Drag
  overlay : Option Overlay
  entry : Entry
  config : EditorConfig
  mode : ViewMode
  paletteSearch : String
  formBridge : Bridge Form
  recordBridge : Bridge Record
  ids : IdSupply
  deriving DecidableEq

/-- What is not there can be passed over; every other error remains. -/
def EditError.recover : Except EditError α → Except EditError (Option α)
  | .ok value => .ok (some value)
  | .error (.missingTarget ..) => .ok none
  | .error cause => .error cause

namespace Editor

/-- Hands the form to the bridge of its text. -/
def publishForm (editor : Editor) (now : Time) : Editor :=
  { editor with formBridge := (editor.formBridge.modelChanged editor.form now).2 }

/-- Hands the selected record to the bridge of its text. -/
def publishRecord (editor : Editor) (now : Time) : Editor :=
  match editor.records.selected with
  | some record => { editor with recordBridge := (editor.recordBridge.modelChanged record now).2 }
  | none => editor

/-- An editor that is started on a form, without any records. -/
def start (form : Form) (config : EditorConfig) (ids : IdSupply) (now : Time) : Editor :=
  let editor : Editor :=
    { form, config, ids
      records := .empty
      drag := .idle
      overlay := none
      entry := .blank
      mode := config.initialMode
      paletteSearch := ""
      formBridge := .ofDelays config.textDebounce config.modelDebounce
      recordBridge := .ofDelays config.textDebounce config.modelDebounce }
  editor.publishForm now

/-- The text of the form on the screen. -/
def formText (editor : Editor) : String :=
  editor.formBridge.surface.text

/-- The text of a record on the screen. -/
def recordText (editor : Editor) : String :=
  editor.recordBridge.surface.text

def setPaletteSearch (editor : Editor) (search : String) : Editor :=
  { editor with paletteSearch := search }

/-- Puts a form in place of the one that is edited, as a change of the model. -/
def changeForm (editor : Editor) (form : Form) (now : Time) : Editor :=
  { editor with form }.publishForm now

end Editor

end FormEditor
