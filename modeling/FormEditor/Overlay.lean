import FormEditor.Form.Edit
import FormEditor.Text.Blank

/-! At most one overlay lies over the form: the menu of an element or the dialog in which it is edited. The
dialog works on a draft, and the form only changes when the draft is saved. -/

namespace FormEditor

/-- The entries of the menu of an element. -/
inductive MenuEntry where
  | edit
  | delete
  | duplicate
  deriving DecidableEq

namespace MenuEntry

/-- The entries in the order of the menu. -/
def all : List MenuEntry :=
  [.edit, .delete, .duplicate]

def label : MenuEntry → String
  | .edit => "Edit"
  | .delete => "Delete"
  | .duplicate => "Duplicate"

end MenuEntry

/-- The dialog in which an element is edited. -/
structure EditDialog where
  draft : Element
  deriving DecidableEq

namespace EditDialog

def elementId (dialog : EditDialog) : String :=
  dialog.draft.id

/-- The caption of the primary text. -/
def primaryLabel (dialog : EditDialog) : String :=
  match dialog.draft.kind with
  | .field => "Label"
  | .display => "Content"

/-- Gives the draft another type, as it would change in the form. -/
def changeType (dialog : EditDialog) (form : Form) (type : ElementType) : Except EditError EditDialog :=
  if type = dialog.draft.type then pure dialog else EditDialog.mk <$> form.morph dialog.draft type

/-- A text that is left out when it is empty. -/
def filled (text : String) : Option String :=
  if text = "" then none else some text

/-- Changes what only a field has. -/
def mapField (change : InputField → InputField) (dialog : EditDialog) : EditDialog :=
  match dialog.draft with
  | .display _ => dialog
  | .input field => ⟨.input (change field)⟩

def setText (dialog : EditDialog) (text : String) : EditDialog :=
  ⟨dialog.draft.withPrimaryText text⟩

def setSubtitle (dialog : EditDialog) (text : String) : EditDialog :=
  ⟨dialog.draft.withBase { dialog.draft.base with subtitle := filled text }⟩

def setDescription (dialog : EditDialog) (text : String) : EditDialog :=
  ⟨dialog.draft.withBase { dialog.draft.base with description := filled text }⟩

def setPlaceholder (dialog : EditDialog) (text : String) : EditDialog :=
  dialog.mapField fun field => { field with placeholder := filled text }

/-- The options are the lines of a text. -/
def setOptions (dialog : EditDialog) (text : String) : EditDialog :=
  let options := Text.trimmedLines text
  dialog.mapField fun field => { field with options := if options.isEmpty then none else some options }

end EditDialog

inductive Overlay where
  /-- The menu of an element, and where it stands. -/
  | menu (elementId : String) (x y : Float)
  | dialog (dialog : EditDialog)
  deriving DecidableEq

namespace Overlay

def dialog? : Overlay → Option EditDialog
  | .menu .. => none
  | .dialog opened => some opened

def menuTarget? : Overlay → Option String
  | .menu elementId .. => some elementId
  | .dialog _ => none

end Overlay

end FormEditor
