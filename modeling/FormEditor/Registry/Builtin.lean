import FormEditor.Registry.Basic

/-! The definitions that a document gets when it brings none of its own: one for every element type. -/

namespace FormEditor

namespace DefaultProps

def ofField (type : ElementType) (label : String) (placeholder : Option String := none) : DefaultProps :=
  { type, label, placeholder }

def ofChoice (type : ElementType) (label : String) : DefaultProps :=
  { type, label, options := some ["Option 1", "Option 2", "Option 3"] }

def ofDisplay (type : ElementType) (content : String) : DefaultProps :=
  { type, content }

end DefaultProps

namespace Registry

open DefaultProps

/-- The built-in definition of a type. -/
def builtinDefinition (type : ElementType) : Definition :=
  match type with
  | .title => ⟨"Layout", "title", ofDisplay type "New Title"⟩
  | .subtitle => ⟨"Layout", "subtitle", ofDisplay type "New Subtitle"⟩
  | .paragraph => ⟨"Layout", "paragraph", ofDisplay type "New paragraph text."⟩
  | .text => ⟨"Basic Inputs", "text", ofField type "Text Field" "Enter text"⟩
  | .email => ⟨"Basic Inputs", "email", ofField type "Email" "email@example.com"⟩
  | .password => ⟨"Basic Inputs", "password", ofField type "Password" "Enter password"⟩
  | .number => ⟨"Basic Inputs", "number", ofField type "Number" "0"⟩
  | .textarea => ⟨"Basic Inputs", "textarea", ofField type "Text Area" "Enter text..."⟩
  | .url => ⟨"Basic Inputs", "url", ofField type "URL" "https://example.com"⟩
  | .select => ⟨"Selectors", "select", ofChoice type "Select"⟩
  | .multiselect => ⟨"Selectors", "select", ofChoice type "Multi Select"⟩
  | .checkbox => ⟨"Selectors", "checkbox", ofField type "Checkbox"⟩
  | .radio => ⟨"Selectors", "radio", ofChoice type "Radio Group"⟩
  | .toggle => ⟨"Selectors", "toggle", ofField type "Toggle"⟩
  | .date => ⟨"Date & Time", "date", ofField type "Date"⟩
  | .datetime => ⟨"Date & Time", "datetime", ofField type "Date & Time"⟩
  | .daterange => ⟨"Date & Time", "date", ofField type "Date Range"⟩
  | .time => ⟨"Date & Time", "time", ofField type "Time"⟩
  | .phone => ⟨"Data Entry", "phone", ofField type "Phone Number" "(555) 555-5555"⟩
  | .creditcard => ⟨"Data Entry", "creditcard", ofField type "Credit Card" "0000 0000 0000 0000"⟩
  | .currency => ⟨"Data Entry", "number", ofField type "Currency" "0.00"⟩
  | .masked => ⟨"Data Entry", "text", ofField type "Masked Input" "___-___-____"⟩
  | .file => ⟨"Media & Graphics", "file", ofField type "File Upload"⟩
  | .image => ⟨"Media & Graphics", "file", ofField type "Image Upload"⟩
  | .signature => ⟨"Media & Graphics", "signature", ofField type "Signature"⟩
  | .color => ⟨"Media & Graphics", "color", ofField type "Color Picker"⟩
  | .richtext => ⟨"Advanced", "richtext", ofField type "Rich Text Editor"⟩
  | .mapLocationPicker => ⟨"Advanced", "map", ofField type "Location"⟩
  | .rating => ⟨"Advanced", "rating", ofField type "Rating"⟩
  | .repeater => ⟨"Advanced", "repeater", ofField type "Repeater Field"⟩

def builtin : Registry where
  entries := ElementType.all.map fun type => (type, builtinDefinition type)
  distinct := by decide

end Registry

end FormEditor
