import FormEditor.Form.Layout
import FormEditor.Registry.Builtin

/-! A form is a document with a name, a registry of its own and sections of rows. -/

namespace FormEditor

/-- The identity of a form. Only the name ever changes. -/
structure FormConfig where
  uid : String
  version : String
  name : String
  deriving DecidableEq

structure Form where
  config : FormConfig
  registry : Registry
  sections : List Section
  deriving DecidableEq

namespace Form

/-- A new form with one empty section. -/
def blank (uid : String) : Form where
  config := ⟨uid, "1.0.0", "New Form"⟩
  registry := .builtin
  sections := [⟨"section-1", "Section 1", []⟩]

/-- The first section with an id. -/
def findSection (form : Form) (sectionId : String) : Option Section :=
  form.sections.find? (·.id = sectionId)

def rows (form : Form) : List Row :=
  form.sections.flatMap (·.rows)

def columns (form : Form) : List Column :=
  form.rows.flatMap (·.columns)

/-- Every element, in the order of the document. -/
def elements (form : Form) : List Element :=
  form.columns.map (·.element)

def fields (form : Form) : List InputField :=
  form.elements.filterMap Element.field?

/-- The first element with an id. -/
def findElement (form : Form) (elementId : String) : Option Element :=
  form.elements.find? (·.id = elementId)

/-- The first element with an id, if it is a field. -/
def findField (form : Form) (fieldId : String) : Option InputField :=
  (form.findElement fieldId).bind Element.field?

/-- The ids of all parts of a form, in the order of the document. -/
def ids (form : Form) : List String :=
  form.sections.flatMap fun part =>
    part.id :: part.rows.flatMap fun row =>
      row.id :: row.columns.flatMap fun column => [column.id, column.element.id]

end Form

end FormEditor
