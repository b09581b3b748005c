import FormEditor.Text.Quoted
import FormEditor.View.Basic

/-! A picture of an editor as lines of text. -/

namespace FormEditor

namespace ZoneView

def mark (zone : ZoneView) : String :=
  match zone.state with
  | .inert => "·"
  | .armed => "+"
  | .hovered => ">"

def line (zone : ZoneView) : String :=
  s!"  {zone.mark} drop {Decimal.string zone.zone.rowIndex}"

end ZoneView

namespace WidgetView

/-- The value and the message of a field, where there are any. -/
def state (widget : WidgetView) : String :=
  let value := if widget.value = .null then "" else s!" = {widget.value.compact}"
  let error := (widget.error.map fun message => s!" !{message}").getD ""
  value ++ error

end WidgetView

namespace ColumnView

def line (column : ColumnView) : String :=
  let element := column.element
  let start := s!"    [{column.width.text}] {element.glyph} "
  match element.body with
  | .content text => s!"{start}{text} ({element.type.tag}) {element.id}"
  | .widget widget =>
    let lock := if widget.readOnly then " ro" else ""
    s!"{start}{widget.label} ({element.type.tag}) <{widget.kind.name}{lock}> {element.id}{widget.state}"

end ColumnView

namespace RowView

/-- The condition of a row in words. -/
def conditionText (condition : RowCondition) : String :=
  s!" if {condition.fieldId} {condition.operator.caption} {condition.value.compact}"

def lines (row : RowView) : List String :=
  let condition := (row.condition.map conditionText).getD ""
  s!"  row {row.id}{condition}" :: row.columns.map ColumnView.line

end RowView

namespace SectionView

/-- The lines of rows, each after the zone before it. -/
def rowLines : List ZoneView → List RowView → List String
  | zones, [] => zones.map ZoneView.line
  | [], row :: rows => row.lines ++ rowLines [] rows
  | zone :: zones, row :: rows => zone.line :: (row.lines ++ rowLines zones rows)

def lines (part : SectionView) : List String :=
  s!"section {part.id} \"{part.title}\"" :: rowLines part.zones part.rows

end SectionView

namespace FormView

def paletteLine (group : PaletteGroup) : String :=
  let names := ", ".intercalate (group.entries.map (·.name))
  s!"  palette {group.category}: {names}"

def lines (form : FormView) : List String :=
  s!"[{form.modeLabel}] {form.name}" :: (form.palette.map paletteLine ++ form.sections.flatMap (·.lines)
    ++ (form.submitLabel.map fun label => s!"  ({label})").toList)

end FormView

namespace ListView

def rowLine (row : ListRow) : String :=
  let mark := if row.selected then "*" else " "
  let buttons := " | ".intercalate (row.buttons.map (·.label))
  s!"{mark} #{row.id.text} {row.summary}  [{buttons}]"

def lines (shown : ListView) : List String :=
  (shown.empty.map fun message => s!"  {message}").toList ++ shown.rows.map rowLine

end ListView

def View.lines (mode : ViewMode) : View → List String
  | .form shown => shown.lines
  | .list shown => s!"[{mode.tag}] records: {Decimal.string shown.rows.length}" :: shown.lines
  | .json title text => [s!"[{mode.tag}] {title}", text]
  | .noJson message | .notice message => [s!"[{mode.tag}] {message}"]

def OverlayView.line : OverlayView → String
  | .menu elementId _ _ entries =>
    let labels := " | ".intercalate (entries.map (·.label))
    s!"menu for {elementId}: {labels}"
  | .dialog elementId primaryLabel _ draft =>
    s!"editing {elementId} as {draft.type.tag}: {primaryLabel} = {Text.quoted draft.primaryText}"

/-- The outline of a picture; every line is ended. -/
def Projection.outline (projection : Projection) : String :=
  let lines := projection.view.lines projection.mode ++ (projection.overlay.map (·.line)).toList
  String.join (lines.map (· ++ "\n"))

end FormEditor
