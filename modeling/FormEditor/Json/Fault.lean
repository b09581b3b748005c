/-! A text that is not taken for what it should hold is refused for a cause. Four causes are told apart by
name; every other one is that the text is malformed at some place. -/

namespace FormEditor

/-- Why a text is refused. -/
inductive Fault where
  | missingField (name : String)
  | duplicateField (name : String)
  | unknownVariant (name : String)
  /-- An element carries the text member of the other kind of elements. -/
  | mixedElement (id typeTag member : String)
  | malformed
  deriving DecidableEq

/-- The cause in words, if it is one of those that have a name. -/
def Fault.cause? : Fault → Option String
  | .missingField name => some s!"missing field `{name}`"
  | .duplicateField name => some s!"duplicate field `{name}`"
  | .unknownVariant name => some s!"unknown variant `{name}`"
  | .mixedElement id typeTag member => some s!"element `{id}` of type `{typeTag}` carries `{member}`"
  | .malformed => none

def Fault.message (fault : Fault) : String :=
  "invalid JSON: " ++ fault.cause?.getD "malformed text"

end FormEditor
