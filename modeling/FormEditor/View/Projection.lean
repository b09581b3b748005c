import FormEditor.Editor.Basic
import FormEditor.Registry.Glyph
import FormEditor.View.Basic

/-! The picture of an editor depends on its mode and leaves the editor as it is. The form is shown to be built,
to be looked at or to be filled in, and values can be entered only in the last case. -/

namespace FormEditor

namespace ViewMode

/-- The mode as it stands in the names of slots. -/
def slotName (mode : ViewMode) : String :=
  String.ofList (mode.tag.toList.map Char.toLower)

end ViewMode

namespace Drag

/-- How a zone is shown during a drag and without one. -/
def zoneState (drag : Drag) (zone : DropZone) : ZoneState :=
  if drag.hovered = some zone then .hovered
  else if drag.isDragging then .armed
  else .inert

end Drag

namespace Editor

/-- The value that a field is shown with. -/
def shownValue (editor : Editor) (fieldId : String) : Option Json :=
  match editor.mode with
  | .view => editor.records.selected.bind fun record => record.fields.get? fieldId
  | .add | .update => editor.entry.value? fieldId
  | _ => none

/-- The widget of a field. -/
def mount (editor : Editor) (field : InputField) : WidgetMount where
  slot := s!"{editor.mode.slotName}:{field.id}"
  kind := .ofType field.type
  field := field
  readOnly := !editor.mode.isEntry

def widgetView (editor : Editor) (field : InputField) : WidgetView :=
  let mount := editor.mount field
  { kind := mount.kind
    slot := mount.slot
    label := field.label
    readOnly := mount.readOnly
    value := (editor.shownValue field.id).getD .null
    error := if editor.mode.isEntry then editor.entry.error? field.id else none
    placeholder := field.placeholder
    options := field.options }

/-- The glyph of an element: that of its own icon, or else of the icon of its type. -/
def glyphOf (editor : Editor) (element : Element) : String :=
  match element.base.icon <|> (editor.form.registry.get? element.type).map (·.icon) with
  | some icon => glyph icon
  | none => fallbackGlyph

def elementView (editor : Editor) (element : Element) : ElementView where
  id := element.id
  type := element.type
  glyph := editor.glyphOf element
  subtitle := element.base.subtitle
  description := element.base.description
  photo := element.base.photo
  body :=
    match element with
    | .display block => .content block.content
    | .input field => .widget (editor.widgetView field)

def rowView (editor : Editor) (row : Row) : RowView where
  id := row.id
  condition := row.condition
  columns := row.columns.map fun column => ⟨column.id, column.width, editor.elementView column.element⟩

/-- The drop zones of a section, which are there only while the form is built. -/
def zoneViews (editor : Editor) (part : Section) : List ZoneView :=
  if editor.mode = .editor then
    (List.range (part.rows.length + 1)).map fun index =>
      let zone : DropZone := ⟨part.id, index⟩
      ⟨zone, editor.drag.zoneState zone⟩
  else []

def sectionView (editor : Editor) (part : Section) : SectionView where
  id := part.id
  title := part.title
  rows := part.rows.map editor.rowView
  zones := editor.zoneViews part

def formView (editor : Editor) : FormView where
  name := editor.form.config.name
  modeLabel := editor.mode.label
  palette :=
    if editor.mode = .editor ∧ editor.config.showPalette then
      editor.form.registry.searchPalette editor.paletteSearch
    else []
  sections := editor.form.sections.map editor.sectionView
  editable := editor.mode = .editor
  submitLabel := editor.mode.submitLabel?

def listView (editor : Editor) : ListView where
  rows := editor.records.records.map fun record =>
    ⟨record.id, record.summary, editor.records.selectedId = some record.id, ListButton.all⟩
  empty := if editor.records.records.isEmpty then some "No records submitted yet." else none

def view (editor : Editor) : View :=
  match editor.mode, editor.records.selected with
  | .editor, _ | .add, _ => .form editor.formView
  | .view, some _ | .update, some _ => .form editor.formView
  | .view, none => .notice "Select a record from the LIST tab to view it."
  | .update, none => .notice "Select a record from the LIST tab to update it."
  | .list, _ => .list editor.listView
  | .formJson, _ => .json "Form Definition JSON" editor.formText
  | .formDataJson, _ =>
    match editor.records.selectedId with
    | some id => .json s!"Submitted Data JSON (ID: {id.text})" editor.recordText
    | none => .noJson "Select a record from the LIST tab to view its JSON data."

def overlayView (editor : Editor) : Overlay → OverlayView
  | .menu elementId x y => .menu elementId x y MenuEntry.all
  | .dialog dialog =>
    .dialog dialog.elementId dialog.primaryLabel editor.form.registry.types dialog.draft

/-- The widgets that are mounted when an element is shown. -/
def elementMounts (editor : Editor) : Element → List WidgetMount
  | .display _ => []
  | .input field => [editor.mount field]

/-- The widgets that are mounted when the form is shown, in the order in which its elements are shown. -/
def formMounts (editor : Editor) : List WidgetMount :=
  editor.form.sections.flatMap fun part =>
    part.rows.flatMap fun row => row.columns.flatMap fun column => editor.elementMounts column.element

/-- The picture of the editor. -/
def project (editor : Editor) : Projection where
  mode := editor.mode
  view := editor.view
  overlay := if editor.mode = .editor then editor.overlay.map editor.overlayView else none
  mounts :=
    match editor.view with
    | .form _ => editor.formMounts
    | _ => []

end Editor

end FormEditor
