import FormEditor.Drag
import FormEditor.Editor.Action
import FormEditor.Overlay
import FormEditor.Registry.Palette
import FormEditor.Widget

/-! What is to be seen of an editor: a form with its elements and drop zones, the list of records, a text, or a
notice that there is nothing to be seen, and the overlay on top of it. -/

namespace FormEditor

inductive ZoneState where
  /-- Nothing is being dragged. -/
  | inert
  /-- Something is being dragged and may be dropped here. -/
  | armed
  /-- What is being dragged is over the zone. -/
  | hovered
  deriving DecidableEq

structure ZoneView where
  zone : DropZone
  state : ZoneState
  deriving DecidableEq

/-- A field with its widget. -/
structure WidgetView where
  kind : WidgetKind
  slot : String
  label : String
  readOnly : Bool
  value : Json
  error : Option String
  placeholder : Option String
  options : Option (List String)
  deriving DecidableEq

inductive ElementBody where
  | content (text : String)
  | widget (view : WidgetView)
  deriving DecidableEq

structure ElementView where
  id : String
  type : ElementType
  glyph : String
  subtitle : Option String
  description : Option String
  photo : Option String
  body : ElementBody
  deriving DecidableEq

structure ColumnView where
  id : String
  width : ColumnWidth
  element : ElementView
  deriving DecidableEq

structure RowView where
  id : String
  condition : Option RowCondition
  columns : List ColumnView
  deriving DecidableEq

structure SectionView where
  id : String
  title : String
  rows : List RowView
  /-- The zones before, between and after the rows. -/
  zones : List ZoneView
  deriving DecidableEq

structure FormView where
  name : String
  modeLabel : String
  palette : List PaletteGroup
  sections : List SectionView
  editable : Bool
  submitLabel : Option String
  deriving DecidableEq

structure ListRow where
  id : RecordId
  summary : String
  selected : Bool
  buttons : List ListButton
  deriving DecidableEq

structure ListView where
  rows : List ListRow
  /-- The message when there are no rows. -/
  empty : Option String
  deriving DecidableEq

inductive View where
  | form (shown : FormView)
  | list (shown : ListView)
  | json (title text : String)
  | noJson (message : String)
  | notice (message : String)
  deriving DecidableEq

inductive OverlayView where
  | menu (elementId : String) (x y : Float) (entries : List MenuEntry)
  | dialog (elementId primaryLabel : String) (typeChoices : List ElementType) (draft : Element)
  deriving DecidableEq

/-- One picture of an editor, with the widgets that are mounted in it. -/
structure Projection where
  mode : ViewMode
  view : View
  overlay : Option OverlayView
  mounts : List WidgetMount
  deriving DecidableEq

end FormEditor
