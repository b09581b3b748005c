import FormEditor.Json.Fault

/-! An operation fails because a type has no definition, a mode has no such name, a text does not hold what it
should, or the part of the document that it names is not there. -/

namespace FormEditor

/-- What a name that leads nowhere was meant to name. -/
inductive TargetKind where
  | formSection
  | row
  | element
  | record
  deriving DecidableEq

def TargetKind.name : TargetKind → String
  | .formSection => "section"
  | .row => "row"
  | .element => "element"
  | .record => "record"

inductive EditError where
  | unknownType (tag : String)
  | unknownMode (name : String)
  | parse (fault : Fault)
  | missingTarget (kind : TargetKind) (id : String)
  deriving DecidableEq

namespace EditError

def code : EditError → String
  | .unknownType _ => "E_SCHEMA"
  | .unknownMode _ => "E_MODE"
  | .parse _ => "E_PARSE"
  | .missingTarget .. => "E_MISSING_TARGET"

/-- Whether the document and its registry still agree, so that the user can go on. -/
def isRecoverable : EditError → Bool
  | .unknownType _ => false
  | _ => true

def message : EditError → String
  | .unknownType tag => s!"no schema definition for type: {tag}"
  | .unknownMode name => s!"unknown view mode: {name}"
  | .parse fault => fault.message
  | .missingTarget kind id => s!"{kind.name} not found: {id}"

end EditError

end FormEditor
