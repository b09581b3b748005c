import FormEditor.Form.Basic
import FormEditor.Json.Printer
import FormEditor.Json.Shape

/-! Forms are kept as JSON. Every structure is written as an object with its members in the order of their
declaration, members without a value left out. Reading takes the same members back and refuses an element
that carries the text member of the other kind. A form without a registry, or with an empty one, gets the
built-in one. -/

namespace FormEditor

open Json (Decoder Shape optional)

/-- A member of an object that may be left out and holds a text. -/
def Json.optionalText (name : String) : Option String → List (String × Json) :=
  optional name .string

namespace Validation

def toJson (validation : Validation) : Json :=
  .object [("regex", .string validation.regex), ("message", .string validation.message)]

def shape : Shape Validation :=
  ((Shape.make Validation.mk).field (.required "regex" Json.Node.text)).field
    (.required "message" Json.Node.text)

end Validation

namespace ElementType

def toJson (type : ElementType) : Json :=
  .string type.tag

def decoder : Decoder ElementType :=
  Json.Node.variant ofTag?

end ElementType

def Json.ofTexts (texts : List String) : Json :=
  .array (texts.map .string)

namespace DefaultProps

def toJson (props : DefaultProps) : Json :=
  .object (optional "type" ElementType.toJson props.type ++ Json.optionalText "label" props.label
    ++ Json.optionalText "content" props.content ++ Json.optionalText "placeholder" props.placeholder
    ++ optional "options" Json.ofTexts props.options ++ Json.optionalText "mask" props.mask
    ++ optional "validation" Validation.toJson props.validation
    ++ Json.optionalText "subtitle" props.subtitle ++ Json.optionalText "description" props.description
    ++ Json.optionalText "photo" props.photo ++ Json.optionalText "icon" props.icon)

def shape : Shape DefaultProps :=
  let text (name : String) : Json.Field (Option String) := .optional name Json.Node.text
  (Shape.make DefaultProps.mk).field (.optional "type" ElementType.decoder)
    |>.field (text "label")
    |>.field (text "content")
    |>.field (text "placeholder")
    |>.field (.optional "options" (Json.Node.list Json.Node.text))
    |>.field (text "mask")
    |>.field (.optional "validation" Validation.shape.decode)
    |>.field (text "subtitle")
    |>.field (text "description")
    |>.field (text "photo")
    |>.field (text "icon")

end DefaultProps

namespace Definition

def toJson (definition : Definition) : Json :=
  .object [("category", .string definition.category), ("icon", .string definition.icon),
    ("defaultProps", definition.defaultProps.toJson)]

def shape : Shape Definition :=
  (Shape.make Definition.mk).field (.required "category" Json.Node.text)
    |>.field (.required "icon" Json.Node.text)
    |>.field (.required "defaultProps" DefaultProps.shape.decode)

end Definition

namespace Registry

def toJson (registry : Registry) : Json :=
  .object (registry.entries.map fun (type, definition) => (type.tag, definition.toJson))

/-- Reads definitions into a registry. A type that is defined again keeps its place. -/
def ofMembers (registry : Registry) : List (Option String × Json.Node) → Except Fault Registry
  | [] => pure registry
  | (key, value) :: members => do
    let some tag := key | throw .malformed
    let some type := ElementType.ofTag? tag | throw (.unknownVariant tag)
    let definition ← Definition.shape.decode value
    ofMembers (registry.insert type definition) members

def decoder : Decoder Registry
  | .object members closed => do
    let registry ← ofMembers .empty members
    if closed then pure registry else throw .malformed
  | _ => throw .malformed

end Registry

/-- The members of an element of either kind. -/
structure ElementMembers where
  id : String
  type : ElementType
  label : Option String
  content : Option String
  placeholder : Option String
  options : Option (List String)
  mask : Option String
  validation : Option Validation
  subtitle : Option String
  description : Option String
  photo : Option String
  icon : Option String
  deriving DecidableEq

namespace ElementMembers

def shape : Shape ElementMembers :=
  let text (name : String) : Json.Field (Option String) := .omissible name Json.Node.text
  (Shape.make ElementMembers.mk).field (.required "id" Json.Node.text)
    |>.field (.required "type" ElementType.decoder)
    |>.field (text "label")
    |>.field (text "content")
    |>.field (text "placeholder")
    |>.field (.omissible "options" (Json.Node.list Json.Node.text))
    |>.field (text "mask")
    |>.field (.omissible "validation" Validation.shape.decode)
    |>.field (text "subtitle")
    |>.field (text "description")
    |>.field (text "photo")
    |>.field (text "icon")

/-- The element that the members make: a display block has no label and a field has no content. -/
def toElement (members : ElementMembers) : Except Fault Element :=
  let base : ElementBase :=
    ⟨members.id, members.subtitle, members.description, members.photo, members.icon⟩
  let mixed (member : String) : Fault := .mixedElement members.id members.type.tag member
  match members.type.kind with
  | .display =>
    if members.label.isSome then throw (mixed "label")
    else pure (.display { type := members.type, base, content := members.content.getD "" })
  | .field =>
    if members.content.isSome then throw (mixed "content")
    else
      pure (.input
        { type := members.type, base, label := members.label.getD "", placeholder := members.placeholder
          options := members.options, mask := members.mask, validation := members.validation })

end ElementMembers

namespace Element

/-- The members that only one kind of elements has. -/
def ownMembers : Element → List (String × Json)
  | .display block => [("content", .string block.content)]
  | .input field =>
    [("label", .string field.label)] ++ Json.optionalText "placeholder" field.placeholder
      ++ optional "options" Json.ofTexts field.options ++ Json.optionalText "mask" field.mask
      ++ optional "validation" Validation.toJson field.validation

def toJson (element : Element) : Json :=
  .object ([("id", .string element.id), ("type", element.type.toJson)] ++ element.ownMembers
    ++ Json.optionalText "subtitle" element.base.subtitle
    ++ Json.optionalText "description" element.base.description
    ++ Json.optionalText "photo" element.base.photo ++ Json.optionalText "icon" element.base.icon)

def decoder : Decoder Element := fun node => do
  (← ElementMembers.shape.decode node).toElement

end Element

namespace Column

def toJson (column : Column) : Json :=
  .object [("id", .string column.id), ("width", .string column.width.text),
    ("element", column.element.toJson)]

def shape : Shape Column :=
  (Shape.make Column.mk).field (.required "id" Json.Node.text)
    |>.field (.required "width" (Json.Node.variant ColumnWidth.ofText?))
    |>.field (.required "element" Element.decoder)

end Column

namespace RowCondition

def toJson (condition : RowCondition) : Json :=
  .object [("fieldId", .string condition.fieldId), ("operator", .string condition.operator.text),
    ("value", condition.value)]

/-- The value of a condition stands inside so many containers of a form: the form, its data, the sections,
a section, its rows, a row and the condition. -/
def containers : Nat := 7

def shape : Shape RowCondition :=
  (Shape.make RowCondition.mk).field (.required "fieldId" Json.Node.text)
    |>.field (.required "operator" (Json.Node.variant ConditionOperator.ofText?))
    |>.field (.required "value" (Json.Node.json containers))

end RowCondition

namespace Row

def toJson (row : Row) : Json :=
  .object ([("id", .string row.id), ("columns", .array (row.columns.map Column.toJson))]
    ++ optional "condition" RowCondition.toJson row.condition)

def shape : Shape Row :=
  (Shape.make Row.mk).field (.required "id" Json.Node.text)
    |>.field (.required "columns" (Json.Node.list Column.shape.decode))
    |>.field (.omissible "condition" RowCondition.shape.decode)

end Row

namespace Section

def toJson (part : Section) : Json :=
  .object [("id", .string part.id), ("title", .string part.title),
    ("rows", .array (part.rows.map Row.toJson))]

def shape : Shape Section :=
  (Shape.make Section.mk).field (.required "id" Json.Node.text)
    |>.field (.required "title" Json.Node.text)
    |>.field (.required "rows" (Json.Node.list Row.shape.decode))

end Section

namespace FormConfig

def toJson (config : FormConfig) : Json :=
  .object [("uid", .string config.uid), ("version", .string config.version),
    ("name", .string config.name)]

def shape : Shape FormConfig :=
  (Shape.make FormConfig.mk).field (.required "uid" Json.Node.text)
    |>.field (.required "version" Json.Node.text)
    |>.field (.required "name" Json.Node.text)

end FormConfig

namespace Form

def toJson (form : Form) : Json :=
  .object [("config", form.config.toJson), ("schema", form.registry.toJson),
    ("data", .object [("sections", .array (form.sections.map Section.toJson))])]

def dataShape : Shape (List Section) :=
  (Shape.make id).field (.required "sections" (Json.Node.list Section.shape.decode))

def shape : Shape Form :=
  (Shape.make Form.mk).field (.required "config" FormConfig.shape.decode)
    |>.field (.defaulted "schema" Registry.decoder .empty)
    |>.field (.required "data" dataShape.decode)

/-- The text of a form, over several lines. -/
def text (form : Form) : String :=
  form.toJson.pretty

/-- Gives a form with an empty registry the built-in one. -/
def withRegistry (form : Form) : Form :=
  if form.registry.isEmpty then { form with registry := .builtin } else form

def ofText (text : String) : Except Fault Form :=
  (Json.decodeText shape.decode text).map withRegistry

end Form

end FormEditor
