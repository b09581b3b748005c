import FormEditor.Form.Element
import FormEditor.Json.Value

/-! Sections hold rows, rows hold columns side by side, and every column holds one element. The order of the
lists is the order on the screen. -/

namespace FormEditor

inductive ColumnWidth where
  | full
  | half
  | third
  | twoThirds
  deriving DecidableEq

def ColumnWidth.text : ColumnWidth → String
  | .full => "full"
  | .half => "1/2"
  | .third => "1/3"
  | .twoThirds => "2/3"

def ColumnWidth.ofText? : String → Option ColumnWidth
  | "full" => some .full
  | "1/2" => some .half
  | "1/3" => some .third
  | "2/3" => some .twoThirds
  | _ => none

theorem ColumnWidth.ofText?_text (width : ColumnWidth) : ofText? width.text = some width := by
  cases width <;> rfl

structure Column where
  id : String
  width : ColumnWidth
  element : Element
  deriving DecidableEq

inductive ConditionOperator where
  | equals
  | notEquals
  deriving DecidableEq

def ConditionOperator.text : ConditionOperator → String
  | .equals => "equals"
  | .notEquals => "notEquals"

/-- The operator as outlines show it. -/
def ConditionOperator.caption : ConditionOperator → String
  | .equals => "Equals"
  | .notEquals => "NotEquals"

def ConditionOperator.ofText? : String → Option ConditionOperator
  | "equals" => some .equals
  | "notEquals" => some .notEquals
  | _ => none

theorem ConditionOperator.ofText?_text (operator : ConditionOperator) :
    ofText? operator.text = some operator := by
  cases operator <;> rfl

/-- When a row is to be seen. Documents carry conditions; what they mean is left to those who fill in a
form. -/
structure RowCondition where
  fieldId : String
  operator : ConditionOperator
  value : Json
  deriving DecidableEq

structure Row where
  id : String
  columns : List Column
  condition : Option RowCondition
  deriving DecidableEq

/-- Whether an element of the row has an id. -/
def Row.holds (row : Row) (elementId : String) : Bool :=
  row.columns.any (·.element.id = elementId)

/-- A row with one column of full width. -/
def Row.single (rowId columnId : String) (element : Element) : Row :=
  ⟨rowId, [⟨columnId, .full, element⟩], none⟩

structure Section where
  id : String
  title : String
  rows : List Row
  deriving DecidableEq

end FormEditor
