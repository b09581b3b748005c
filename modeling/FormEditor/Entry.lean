import FormEditor.Form.Basic
import FormEditor.Json.Printer
import FormEditor.Pattern.Engine
import FormEditor.Record.Basic

/-! The values that are entered into a form and the message for each field whose value is not valid. A field with
a validation must not be empty and must match its pattern; a validation whose pattern cannot be read asks
for nothing. What reads and matches the patterns is left open. -/

namespace FormEditor

/-- The text of a value that is validated. -/
def Json.entryText : Json → String
  | .null => ""
  | .string text => text
  | value => value.compact

variable [PatternEngine]

/-- Whether a text is not valid. -/
def Validation.rejects (validation : Validation) (text : String) : Bool :=
  match PatternEngine.compile? validation.regex with
  | none => false
  | some pattern => text.isEmpty || !PatternEngine.matchesIn pattern text

/-- The message for a field with a value or none. -/
def InputField.complaint? (field : InputField) (value : Option Json) : Option String :=
  match field.validation with
  | none => none
  | some validation =>
    if validation.rejects ((value.map Json.entryText).getD "") then some validation.message else none

structure Entry where
  values : Dictionary Json
  /-- The messages by field. -/
  errors : Dictionary String
  deriving DecidableEq

namespace Entry

def blank : Entry :=
  ⟨.empty, .empty⟩

/-- The entry that a record starts. -/
def ofRecord (record : Record) : Entry :=
  ⟨record.fields, .empty⟩

def value? (entry : Entry) (fieldId : String) : Option Json :=
  entry.values.get? fieldId

def error? (entry : Entry) (fieldId : String) : Option String :=
  entry.errors.get? fieldId

def hasErrors (entry : Entry) : Bool :=
  !entry.errors.isEmpty

/-- Puts the message of a field in place, or takes it away. -/
def validate (entry : Entry) (field : InputField) : Entry :=
  { entry with errors :=
      match field.complaint? (entry.value? field.id) with
      | some message => entry.errors.insert field.id message
      | none => entry.errors.erase field.id }

/-- Enters a value and validates its field. -/
def setValue (entry : Entry) (field : InputField) (value : Json) : Entry :=
  { entry with values := entry.values.insert field.id value }.validate field

/-- Validates every field of a form. -/
def validateAll (entry : Entry) (form : Form) : Entry :=
  form.fields.foldl validate entry

end Entry

end FormEditor
