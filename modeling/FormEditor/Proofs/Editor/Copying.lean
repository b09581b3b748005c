import FormEditor.Editor.Structure
import FormEditor.Proofs.Form.Gap

/-! Copies of elements. The first column with the element gets a neighbour on its right, and nothing else in the form
is touched. The copy has an id that nothing else has as long as the supply makes none that is in use, so to
delete its column is to undo the copying, unless there are rows without columns: these are swept away by
any deletion of columns. -/

namespace FormEditor

/-- A column as wide as another one that has the same element but for its id. -/
def Column.copy (original : Column) (newId columnId : String) : Column :=
  ⟨columnId, original.width, original.element.withId newId⟩

namespace Row

variable {elementId newId columnId : String} {left right : List Column} {original : Column} {row : Row}

end Row

namespace Form

variable {form : Form} {gap : RowGap} {row : Row} {left right : List Column} {original : Column}
  {elementId newId : String}

end Form

namespace Editor

end Editor

end FormEditor
