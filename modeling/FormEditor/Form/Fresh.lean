import FormEditor.Form.Edit
import FormEditor.FreshId

/-! The edits that put something new into a form take its ids from a supply. -/

namespace FormEditor.Form

/-- A new element of a type. -/
def create (form : Form) (ids : IdSupply) (type : ElementType) : Except EditError (Element × IdSupply) := do
  let (id, ids) := ids.take type.tag
  pure (← form.newElement id type, ids)

/-- Puts an element into a new row of a section, and returns where the row landed. -/
def insert (form : Form) (ids : IdSupply) (sectionId : String) (index : Nat) (element : Element) :
    Except EditError (Nat × Form × IdSupply) := do
  let (rowId, ids) := ids.take "row"
  let (columnId, ids) := ids.take "col"
  let (rowIndex, form) ← form.insertRow sectionId index rowId columnId element
  pure (rowIndex, form, ids)

/-- Puts a copy of an element beside it, and returns the id of the copy. -/
def duplicate (form : Form) (ids : IdSupply) (elementId : String) :
    Except EditError (String × Form × IdSupply) := do
  let some element := form.findElement elementId | throw (.missingTarget .element elementId)
  let (newId, ids) := ids.take element.type.tag
  let (columnId, ids) := ids.take "col"
  pure (newId, ← form.duplicateElement elementId newId columnId, ids)

/-- A new form with one empty section. -/
def start (ids : IdSupply) : Form × IdSupply :=
  let (uid, ids) := ids.take "form"
  (blank uid, ids)

end FormEditor.Form
