import FormEditor.Form.Edit
import FormEditor.Record.Basic
import FormEditor.Sync.Debounce
import FormEditor.ViewMode

/-! What an operation of the editor reports to those who show it: every action asks for a new picture. -/

namespace FormEditor

/-- The buttons of a record in the list. -/
inductive ListButton where
  | view
  | update
  | delete
  deriving DecidableEq

namespace ListButton

/-- The buttons in the order of the list. -/
def all : List ListButton :=
  [.view, .update, .delete]

def label : ListButton → String
  | .view => "View"
  | .update => "Update"
  | .delete => "Delete"

end ListButton

inductive Action where
  | modeChanged (mode : ViewMode)
  | elementCreated (elementId sectionId : String) (rowIndex : Nat)
  | elementUpdated (elementId : String)
  | elementDeleted (elementId : String) (rowsRemoved : Nat)
  | elementDuplicated (sourceId elementId : String)
  | rowMoved (rowId : String)
  | formRenamed (name : String)
  | overlayChanged
  | entryChanged (fieldId : String)
  | validationFailed (errors : Nat)
  | recordSubmitted (id : RecordId)
  | recordUpdated (id : RecordId)
  | recordDeleted (id : RecordId)
  | recordSelected (id : RecordId)
  | recordReplaced (id : RecordId)
  /-- The text that a mode shows was written anew. -/
  | textPushed (mode : ViewMode)
  | documentReplaced
  deriving DecidableEq

/-- What can be chosen when an editor is started. -/
structure EditorConfig where
  /-- How long typed text waits to be read. -/
  textDebounce : Nat
  /-- How long a change of a model waits to be shown. -/
  modelDebounce : Nat
  deletePolicy : DeletePolicy
  showPalette : Bool
  initialMode : ViewMode
  deriving DecidableEq

def EditorConfig.standard : EditorConfig where
  textDebounce := 500
  modelDebounce := 0
  deletePolicy := .wholeRow
  showPalette := true
  initialMode := .editor

end FormEditor
