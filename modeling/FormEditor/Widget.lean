import FormEditor.Form.Element

/-! A field is filled in through a widget, whose kind follows from the type of the field. Widgets come from
factories: each kind has its own or shares the one for all kinds without one. -/

namespace FormEditor

inductive WidgetKind where
  | textInput
  | numberInput
  | textArea
  | select
  | multiSelect
  | checkbox
  | toggle
  | radioGroup
  | datePicker
  | dateTimePicker
  | dateRangePicker
  | timePicker
  | rating
  | signaturePad
  | fileUpload
  | imageUpload
  deriving DecidableEq, Inhabited

namespace WidgetKind

def all : List WidgetKind :=
  [.textInput, .numberInput, .textArea, .select, .multiSelect, .checkbox, .toggle, .radioGroup,
    .datePicker, .dateTimePicker, .dateRangePicker, .timePicker, .rating, .signaturePad, .fileUpload,
    .imageUpload]

/-- A type without a widget of its own is filled in as text. -/
def ofType : ElementType → WidgetKind
  | .number => .numberInput
  | .textarea | .richtext => .textArea
  | .select => .select
  | .multiselect => .multiSelect
  | .checkbox => .checkbox
  | .toggle => .toggle
  | .radio => .radioGroup
  | .date => .datePicker
  | .datetime => .dateTimePicker
  | .daterange => .dateRangePicker
  | .time => .timePicker
  | .rating => .rating
  | .signature => .signaturePad
  | .file => .fileUpload
  | .image => .imageUpload
  | _ => .textInput

def name : WidgetKind → String
  | .textInput => "text-input"
  | .numberInput => "number-input"
  | .textArea => "text-area"
  | .select => "select"
  | .multiSelect => "multi-select"
  | .checkbox => "checkbox"
  | .toggle => "toggle"
  | .radioGroup => "radio-group"
  | .datePicker => "date-picker"
  | .dateTimePicker => "date-time-picker"
  | .dateRangePicker => "date-range-picker"
  | .timePicker => "time-picker"
  | .rating => "rating"
  | .signaturePad => "signature-pad"
  | .fileUpload => "file-upload"
  | .imageUpload => "image-upload"

def ofName? (name : String) : Option WidgetKind :=
  all.find? (·.name = name)

end WidgetKind

/-- A widget to be mounted: its slot, its kind, its field and whether it only shows the value. -/
structure WidgetMount where
  slot : String
  kind : WidgetKind
  field : InputField
  readOnly : Bool
  deriving DecidableEq

/-- The factories of widgets, of whatever sort `φ` they are. -/
structure WidgetTable (φ : Type) where
  factories : List (WidgetKind × φ)
  fallback : φ

namespace WidgetTable

variable {φ : Type}

def ofFallback (fallback : φ) : WidgetTable φ :=
  ⟨[], fallback⟩

/-- Gives a kind a factory of its own, in place of the one it had. -/
def register (table : WidgetTable φ) (kind : WidgetKind) (factory : φ) : WidgetTable φ :=
  { table with factories := (kind, factory) :: table.factories.filter (·.1 ≠ kind) }

def hasFactory (table : WidgetTable φ) (kind : WidgetKind) : Bool :=
  table.factories.any (·.1 = kind)

/-- The factory that makes the widgets of a kind. -/
def factory (table : WidgetTable φ) (kind : WidgetKind) : φ :=
  ((table.factories.find? (·.1 = kind)).map (·.2)).getD table.fallback

end WidgetTable

end FormEditor
