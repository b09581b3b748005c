import FormEditor.Proofs.Form.Deletion
import FormEditor.Proofs.Form.Validation
import FormEditor.View.Projection

/-! Pictures of a form. A picture has the parts of the form in their order, each as it is in the form, and one widget
for every field and none for anything else. The widgets that are mounted are those in the picture, one by
one, so their slots are as different as the ids of the fields. -/

namespace FormEditor

/-! ### What a picture shows -/

/-- A widget for a field, in which a value can be entered in the modes of an entry only. -/
structure WidgetView.Shows (mode : ViewMode) (field : InputField) (widget : WidgetView) : Prop where
  kind : widget.kind = .ofType field.type
  label : widget.label = field.label
  placeholder : widget.placeholder = field.placeholder
  options : widget.options = field.options
  readOnly : widget.readOnly = true ↔ mode ≠ .add ∧ mode ≠ .update

/-- The content of a display block, or a widget for a field. -/
inductive ElementBody.Shows (mode : ViewMode) : Element → ElementBody → Prop where
  | content (block : DisplayBlock) : Shows mode (.display block) (.content block.content)
  | widget {field : InputField} {widget : WidgetView} (hwidget : widget.Shows mode field) :
      Shows mode (.input field) (.widget widget)

structure ElementView.Shows (mode : ViewMode) (element : Element) (shown : ElementView) : Prop where
  id : shown.id = element.id
  type : shown.type = element.type
  subtitle : shown.subtitle = element.base.subtitle
  description : shown.description = element.base.description
  photo : shown.photo = element.base.photo
  body : ElementBody.Shows mode element shown.body

structure ColumnView.Shows (mode : ViewMode) (column : Column) (shown : ColumnView) : Prop where
  id : shown.id = column.id
  width : shown.width = column.width
  element : shown.element.Shows mode column.element

structure RowView.Shows (mode : ViewMode) (row : Row) (shown : RowView) : Prop where
  id : shown.id = row.id
  condition : shown.condition = row.condition
  columns : List.Forall₂ (ColumnView.Shows mode) row.columns shown.columns

/-- A section with one zone more than it has rows, which are there in the mode in which the form is built only. -/
structure SectionView.Shows (mode : ViewMode) (part : Section) (shown : SectionView) : Prop where
  id : shown.id = part.id
  title : shown.title = part.title
  rows : List.Forall₂ (RowView.Shows mode) part.rows shown.rows
  zones : shown.zones.length = if mode = .editor then part.rows.length + 1 else 0

structure FormView.Shows (mode : ViewMode) (form : Form) (shown : FormView) : Prop where
  name : shown.name = form.config.name
  sections : List.Forall₂ (SectionView.Shows mode) form.sections shown.sections

def ElementBody.widget? : ElementBody → Option WidgetView
  | .content _ => none
  | .widget view => some view

/-- The widgets in a picture of a form, in their order. -/
def FormView.widgets (shown : FormView) : List WidgetView :=
  ((shown.sections.flatMap (·.rows)).flatMap (·.columns)).filterMap (·.element.body.widget?)

/-- A widget is mounted as it is shown. -/
structure WidgetMount.Fits (mount : WidgetMount) (widget : WidgetView) : Prop where
  slot : widget.slot = mount.slot
  kind : widget.kind = mount.kind
  readOnly : widget.readOnly = mount.readOnly

namespace Editor

variable (editor : Editor)

/-! ### The parts of a form -/

theorem isEntry_eq_false_iff {mode : ViewMode} : mode.isEntry = false ↔ mode ≠ .add ∧ mode ≠ .update := by
  cases mode <;> decide

theorem shows_widgetView (field : InputField) : (editor.widgetView field).Shows editor.mode field where
  kind := rfl
  label := rfl
  placeholder := rfl
  options := rfl
  readOnly := by
    rw [← isEntry_eq_false_iff, ← Bool.not_eq_true']
    rfl

theorem shows_elementView (element : Element) : (editor.elementView element).Shows editor.mode element where
  id := rfl
  type := rfl
  subtitle := rfl
  description := rfl
  photo := rfl
  body := by
    cases element with
    | display block => exact .content block
    | input field => exact .widget (editor.shows_widgetView field)

theorem shows_rowView (row : Row) : (editor.rowView row).Shows editor.mode row where
  id := rfl
  condition := rfl
  columns := forall₂_map_iff.mpr fun column _ => ⟨rfl, rfl, editor.shows_elementView column.element⟩

theorem length_zoneViews (part : Section) :
    (editor.zoneViews part).length = if editor.mode = .editor then part.rows.length + 1 else 0 := by
  rw [zoneViews]
  split
  · rw [List.length_map, List.length_range]
  · rfl

theorem shows_sectionView (part : Section) : (editor.sectionView part).Shows editor.mode part where
  id := rfl
  title := rfl
  rows := forall₂_map_iff.mpr fun row _ => editor.shows_rowView row
  zones := editor.length_zoneViews part

theorem shows_formView : editor.formView.Shows editor.mode editor.form where
  name := rfl
  sections := forall₂_map_iff.mpr fun part _ => editor.shows_sectionView part

/-! ### Widgets -/

theorem widget?_elementView (element : Element) :
    (editor.elementView element).body.widget? = element.field?.map editor.widgetView := by
  cases element <;> rfl

/-- A picture has the widgets of the fields, one for each, in the order of the form. -/
theorem widgets_formView : editor.formView.widgets = editor.form.fields.map editor.widgetView := by
  have hrows : editor.formView.sections.flatMap (·.rows) = editor.form.rows.map editor.rowView := by
    rw [Form.rows, List.map_flatMap]
    exact List.flatMap_map ..
  have hcolumns : (editor.form.rows.map editor.rowView).flatMap (·.columns) = editor.form.columns.map fun column =>
      ⟨column.id, column.width, editor.elementView column.element⟩ := by
    rw [Form.columns, List.map_flatMap]
    exact List.flatMap_map ..
  rw [FormView.widgets, hrows, hcolumns, List.filterMap_map, Form.fields, Form.elements, List.filterMap_map,
    List.map_filterMap]
  exact List.filterMap_congr fun column _ => editor.widget?_elementView column.element

theorem eq_formView_of_project {shown : FormView} (hshown : editor.project.view = .form shown) :
    shown = editor.formView := by
  have hview : editor.view = .form shown := hshown
  grind [view]

theorem elementMounts_eq (element : Element) :
    editor.elementMounts element = (element.field?.map editor.mount).toList := by
  cases element <;> rfl

/-- The widgets of the fields are mounted, one for each, in the order of the form. -/
theorem formMounts_eq : editor.formMounts = editor.form.fields.map editor.mount := by
  have hcolumns : editor.formMounts = editor.form.columns.flatMap fun column => editor.elementMounts column.element := by
    rw [Form.columns, Form.rows, List.flatMap_assoc, List.flatMap_assoc]
    rfl
  calc editor.formMounts
      = editor.form.elements.flatMap editor.elementMounts := by rw [hcolumns, Form.elements, List.flatMap_map]
    _ = editor.form.elements.filterMap fun element => element.field?.map editor.mount := by
        rw [List.filterMap_eq_flatMap_toList, funext editor.elementMounts_eq]
    _ = editor.form.fields.map editor.mount := by rw [Form.fields, List.map_filterMap]

theorem mounts_of_project {shown : FormView} (hshown : editor.project.view = .form shown) :
    editor.project.mounts = editor.form.fields.map editor.mount := by
  have hview : editor.view = .form shown := hshown
  rw [project, hview]
  exact editor.formMounts_eq

theorem fits_mount (field : InputField) : (editor.mount field).Fits (editor.widgetView field) :=
  ⟨rfl, rfl, rfl⟩

/-- Within a mode, the slot of a widget tells the id of its field. -/
theorem id_eq_of_slot_eq {first second : InputField} (hslot : (editor.mount first).slot = (editor.mount second).slot) :
    first.id = second.id :=
  (String.append_right_inj _).mp hslot

theorem nodup_slots (hdistinct : (editor.form.elements.map Element.id).Nodup) :
    ((editor.form.fields.map editor.mount).map (·.slot)).Nodup := by
  have hids : (editor.form.fields.map InputField.id).Nodup :=
    hdistinct.sublist editor.form.map_id_fields_sublist
  rw [List.map_map]
  rw [List.Nodup, List.pairwise_map] at hids ⊢
  exact hids.imp fun hne hslot => hne (editor.id_eq_of_slot_eq hslot)

variable {editor}

/-- **The picture of a form is faithful to it.** Whenever a form is to be seen, its sections, rows and columns are there
in their order, each with its own id, title, condition or width, and every element with what it is. A display
block shows its content and has no widget, a field has one widget, of the kind of its type, which is read-only unless
an entry is made. The widgets that are mounted are those of the fields, and they are the widgets of the
picture, one by one, so there are as many of them as fields. They have different slots if no two elements have
the same id. -/
theorem picture_faithful_to_form {shown : FormView} (hshown : editor.project.view = .form shown) :
    shown.Shows editor.mode editor.form ∧
    editor.project.mounts.map (·.field) = editor.form.fields ∧
    editor.project.mounts.length = editor.form.fields.length ∧
    List.Forall₂ WidgetMount.Fits editor.project.mounts shown.widgets ∧
    ((editor.form.elements.map (·.id)).Nodup → (shown.widgets.map (·.slot)).Nodup) := by
  rw [editor.mounts_of_project hshown, editor.eq_formView_of_project hshown, widgets_formView]
  refine ⟨editor.shows_formView, ?_, List.length_map _, ?_, fun hdistinct => ?_⟩
  · rw [List.map_map]
    exact List.map_id _
  · rw [List.forall₂_map_left_iff]
    exact forall₂_map_iff.mpr fun field _ => editor.fits_mount field
  · have hslots := editor.nodup_slots hdistinct
    rw [List.map_map] at hslots ⊢
    exact hslots

/-- A title and two fields side by side, looked at by someone who fills them in. -/
theorem fields_pictured_for_entry :
    let base (id : String) : ElementBase := ⟨id, none, none, none, none⟩
    let title : Element := .display ⟨.title, base "t", "Sizes"⟩
    let width : InputField := ⟨.number, base "w", "Width", none, none, none, none⟩
    let color : InputField := ⟨.color, base "c", "Color", none, none, none, none⟩
    let rows : List Row :=
      [.single "r1" "c1" title, ⟨"r2", [⟨"c2", .half, .input width⟩, ⟨"c3", .half, .input color⟩], none⟩]
    let form : Form := ⟨⟨"u", "1", "A"⟩, .builtin, [⟨"s", "S", rows⟩, ⟨"e", "E", []⟩]⟩
    let editor := start form { EditorConfig.standard with initialMode := .add } ⟨0⟩ 0
    editor.project.view = .form editor.formView ∧
      editor.project.mounts = [⟨"add:w", .numberInput, width, false⟩, ⟨"add:c", .textInput, color, false⟩] ∧
      editor.formView.Shows .add form ∧ (editor.formView.widgets.map (·.slot)).Nodup := by
  intro base title width color rows form editor
  have hshown : editor.project.view = .form editor.formView := rfl
  obtain ⟨hshows, -, -, -, hslots⟩ := picture_faithful_to_form hshown
  exact ⟨hshown, by decide +kernel, hshows, hslots (by decide +kernel)⟩

end Editor

end FormEditor
