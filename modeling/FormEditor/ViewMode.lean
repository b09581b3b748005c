import FormEditor.EditError
import FormEditor.Text.Blank

/-! The editor shows one of seven views at a time: the form under construction, the form to be filled in or
looked at, the list of records, and the texts of the form and of a record. -/

namespace FormEditor

inductive ViewMode where
  | editor
  | formJson
  | add
  | list
  | view
  | update
  | formDataJson
  deriving DecidableEq, Inhabited

namespace ViewMode

/-- The modes in the order of their tabs. -/
def all : List ViewMode :=
  [.editor, .formJson, .add, .list, .view, .update, .formDataJson]

def tag : ViewMode → String
  | .editor => "EDITOR"
  | .formJson => "FORM_JSON"
  | .add => "ADD"
  | .list => "LIST"
  | .view => "VIEW"
  | .update => "UPDATE"
  | .formDataJson => "FORM_DATA_JSON"

/-- The caption of the tab. -/
def label : ViewMode → String
  | .editor => "Editor"
  | .formJson => "Form JSON"
  | .add => "Add"
  | .list => "List"
  | .view => "View"
  | .update => "Update"
  | .formDataJson => "Form Data JSON"

/-- Whether the mode shows the layout of the form. -/
def isForm : ViewMode → Bool
  | .editor | .add | .view | .update => true
  | _ => false

/-- Whether values are entered in the mode. -/
def isEntry : ViewMode → Bool
  | .add | .update => true
  | _ => false

/-- Whether the mode shows the selected record. -/
def needsRecord : ViewMode → Bool
  | .view | .update | .formDataJson => true
  | _ => false

/-- The caption of the button that submits the entry. -/
def submitLabel? : ViewMode → Option String
  | .add => some "Submit"
  | .update => some "Update"
  | _ => none

def ofTag? (tag : String) : Option ViewMode :=
  all.find? (·.tag = tag)

/-- A spelling of a tag in the form of tags: dashes and blanks are separators, and ASCII letters have no
case. -/
def normalize (name : String) : String :=
  String.ofList ((Text.trimChars name.toList).map fun char =>
    if char = '-' ∨ char = ' ' then '_' else char.toUpper)

def ofName (name : String) : Except EditError ViewMode :=
  (ofTag? (normalize name)).elim (throw (.unknownMode name)) pure

end ViewMode

end FormEditor
