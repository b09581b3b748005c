import FormEditor.Registry.Basic

/-! An element is a display block with a content or an input field with a label. Both are their primary text, and
changing the type of an element keeps that text and the identity of the element, while everything else
comes from the definition of the new type. -/

namespace FormEditor

/-- What every element has: its identity and what is shown around it. -/
structure ElementBase where
  id : String
  subtitle : Option String
  description : Option String
  photo : Option String
  icon : Option String
  deriving DecidableEq

structure DisplayBlock where
  type : ElementType
  base : ElementBase
  content : String
  deriving DecidableEq

structure InputField where
  type : ElementType
  base : ElementBase
  label : String
  placeholder : Option String
  options : Option (List String)
  mask : Option String
  validation : Option Validation
  deriving DecidableEq

def InputField.id (field : InputField) : String :=
  field.base.id

inductive Element where
  | display (block : DisplayBlock)
  | input (field : InputField)
  deriving DecidableEq

namespace Element

def base : Element → ElementBase
  | .display block => block.base
  | .input field => field.base

def id (element : Element) : String :=
  element.base.id

def type : Element → ElementType
  | .display block => block.type
  | .input field => field.type

def kind : Element → ElementKind
  | .display _ => .display
  | .input _ => .field

/-- Every element of a document is of the kind of its type. -/
def IsOfItsKind (element : Element) : Prop :=
  element.kind = element.type.kind

instance (element : Element) : Decidable element.IsOfItsKind :=
  inferInstanceAs (Decidable (element.kind = element.type.kind))

/-- The content of a display block, the label of a field. -/
def primaryText : Element → String
  | .display block => block.content
  | .input field => field.label

def field? : Element → Option InputField
  | .display _ => none
  | .input field => some field

def withBase (element : Element) (base : ElementBase) : Element :=
  match element with
  | .display block => .display { block with base }
  | .input field => .input { field with base }

def withId (element : Element) (id : String) : Element :=
  element.withBase { element.base with id }

def withPrimaryText (element : Element) (text : String) : Element :=
  match element with
  | .display block => .display { block with content := text }
  | .input field => .input { field with label := text }

/-- A new element of a type, as its definition has it. -/
def ofDefinition (definition : Definition) (type : ElementType) (id : String) : Element :=
  let props := definition.defaultProps
  let base : ElementBase :=
    ⟨id, props.subtitle, props.description, props.photo, props.icon⟩
  match type.kind with
  | .display => .display { type, base, content := props.content.getD "" }
  | .field =>
    .input
      { type, base, label := props.label.getD "", placeholder := props.placeholder
        options := props.options, mask := props.mask, validation := props.validation }

/-- The element that another one becomes when it changes its type. -/
def morph (element : Element) (definition : Definition) (type : ElementType) : Element :=
  let fresh := ofDefinition definition type element.id
  let base : ElementBase :=
    { element.base with icon := fresh.base.icon }
  (fresh.withBase base).withPrimaryText element.primaryText

@[simp] theorem id_withId (element : Element) (id : String) : (element.withId id).id = id := by
  cases element <;> rfl

@[simp] theorem id_ofDefinition (definition : Definition) (type : ElementType) (id : String) :
    (ofDefinition definition type id).id = id := by
  unfold ofDefinition
  cases type.kind <;> rfl

@[simp] theorem type_ofDefinition (definition : Definition) (type : ElementType) (id : String) :
    (ofDefinition definition type id).type = type := by
  unfold ofDefinition
  cases type.kind <;> rfl

@[simp] theorem id_morph (element : Element) (definition : Definition) (type : ElementType) :
    (element.morph definition type).id = element.id := by
  unfold morph ofDefinition
  cases type.kind <;> rfl

@[simp] theorem type_morph (element : Element) (definition : Definition) (type : ElementType) :
    (element.morph definition type).type = type := by
  unfold morph ofDefinition
  cases type.kind <;> rfl

end Element

end FormEditor
