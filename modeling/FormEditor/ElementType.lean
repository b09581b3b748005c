import FormEditor.EditError

/-! An element of a form is a display block, which carries its content, or an input field, which carries a
label. Its type says which of the two it is. -/

namespace FormEditor

inductive ElementType where
  | title | subtitle | paragraph
  | text | email | password | number | textarea | url
  | select | multiselect | checkbox | radio | toggle
  | date | datetime | daterange | time
  | phone | creditcard | currency | masked
  | file | image | signature | color
  | richtext | mapLocationPicker | rating | repeater
  deriving DecidableEq, Inhabited

inductive ElementKind where
  | display
  | field
  deriving DecidableEq

namespace ElementType

/-- Every type, in the order of the palette. -/
def all : List ElementType :=
  [.title, .subtitle, .paragraph, .text, .email, .password, .number, .textarea, .url, .select,
    .multiselect, .checkbox, .radio, .toggle, .date, .datetime, .daterange, .time, .phone, .creditcard,
    .currency, .masked, .file, .image, .signature, .color, .richtext, .mapLocationPicker, .rating,
    .repeater]

/-- The name of a type in documents and on the command line. -/
def tag : ElementType → String
  | .title => "title"
  | .subtitle => "subtitle"
  | .paragraph => "paragraph"
  | .text => "text"
  | .email => "email"
  | .password => "password"
  | .number => "number"
  | .textarea => "textarea"
  | .url => "url"
  | .select => "select"
  | .multiselect => "multiselect"
  | .checkbox => "checkbox"
  | .radio => "radio"
  | .toggle => "toggle"
  | .date => "date"
  | .datetime => "datetime"
  | .daterange => "daterange"
  | .time => "time"
  | .phone => "phone"
  | .creditcard => "creditcard"
  | .currency => "currency"
  | .masked => "masked"
  | .file => "file"
  | .image => "image"
  | .signature => "signature"
  | .color => "color"
  | .richtext => "richtext"
  | .mapLocationPicker => "map_location_picker"
  | .rating => "rating"
  | .repeater => "repeater"

def ofTag? (tag : String) : Option ElementType :=
  all.find? (·.tag = tag)

theorem mem_all (type : ElementType) : type ∈ all := by
  cases type <;> decide

theorem ofTag?_tag (type : ElementType) : ofTag? type.tag = some type := by
  cases type <;> decide

def kind : ElementType → ElementKind
  | .title | .subtitle | .paragraph => .display
  | _ => .field

def isDisplay (type : ElementType) : Bool :=
  type.kind = .display

def ofName (tag : String) : Except EditError ElementType :=
  (ofTag? tag).elim (throw (.unknownType tag)) pure

end ElementType

end FormEditor
