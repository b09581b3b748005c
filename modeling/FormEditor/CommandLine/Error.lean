import FormEditor.EditError

/-! A command fails where the editor does, where a file cannot be read, written or taken for what it should
hold, or because its arguments do not go with what is stored. -/

namespace FormEditor

inductive CommandError where
  | editor (cause : EditError)
  /-- The file at a path cannot be read or written. -/
  | file (path : String)
  /-- The text of the records is refused. -/
  | records (fault : Fault)
  | alreadyExists (path : String)
  | noRecordsFile
  | badAssignment (text : String)
  | invalidFields (count : Nat)
  deriving DecidableEq

namespace CommandError

def code : CommandError → String
  | .editor cause => cause.code
  | .file _ => "E_IO"
  | .records _ => "E_PARSE"
  | .alreadyExists _ => "E_EXISTS"
  | .noRecordsFile => "E_CONFIG"
  | .badAssignment _ => "E_ARGS"
  | .invalidFields _ => "E_VALIDATION"

def message : CommandError → String
  | .editor cause => cause.message
  | .file path => s!"{path}: cannot be read or written"
  | .records fault => fault.message
  | .alreadyExists path => s!"{path} already exists; pass --force to overwrite"
  | .noRecordsFile => "no records file; pass --records or set FORMDESK_RECORDS"
  | .badAssignment text => s!"invalid field assignment `{text}`; expected FIELD=VALUE"
  | .invalidFields count => s!"submission rejected: {count} field(s) failed validation"

end CommandError

end FormEditor
