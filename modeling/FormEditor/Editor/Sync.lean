import FormEditor.Editor.Records

/-! The user types into the text of the form and into that of a record. What was typed is read when nothing more
has been typed for a while. -/

namespace FormEditor.Editor

def formTextChanged (editor : Editor) (text : String) (now : Time) : Editor :=
  { editor with formBridge := editor.formBridge.editText text now }

def recordTextChanged (editor : Editor) (text : String) (now : Time) : Editor :=
  { editor with recordBridge := editor.recordBridge.editText text now }

/-- The first time at which a bridge has something to do. -/
def deadline? (editor : Editor) : Option Time :=
  match editor.formBridge.deadline?, editor.recordBridge.deadline? with
  | some form, some record => some (min form record)
  | form, record => form.or record

/-- Runs the bridge of the form. A form that was read is not handed back to the bridge it came from. -/
def pollForm (editor : Editor) (now : Time) : List Action × Editor :=
  match editor.formBridge.poll now with
  | (.applied form, formBridge) => ([.documentReplaced], { editor with form, formBridge })
  | (.pushed, formBridge) => ([.textPushed .formJson], { editor with formBridge })
  | (_, formBridge) => ([], { editor with formBridge })

/-- Runs the bridge of the record. -/
def pollRecord (editor : Editor) (now : Time) : List Action × Editor :=
  let (outcome, recordBridge) := editor.recordBridge.poll now
  { editor with recordBridge }.adoptOutcome outcome

/-- Runs both bridges. -/
def poll (editor : Editor) (now : Time) : List Action × Editor :=
  let (formActions, editor) := editor.pollForm now
  let (recordActions, editor) := editor.pollRecord now
  (formActions ++ recordActions, editor)

/-- Waits for what is to be done next and does it, at most so many times. Returns the time at the end. -/
def settleWithin : Nat → Editor → Time → List Action × Time × Editor
  | 0, editor, now => ([], now, editor)
  | rounds + 1, editor, now =>
    match editor.deadline? with
    | none => ([], now, editor)
    | some deadline =>
      let later := max now deadline
      let (actions, next) := editor.poll later
      let (rest, finish) := settleWithin rounds next later
      (actions ++ rest, finish)

/-- Waits until nothing is left to be done. Each of the two bridges has two queues of one text, and every
round takes one of them. -/
def settle (editor : Editor) (now : Time) : List Action × Time × Editor :=
  editor.settleWithin 4 now

end FormEditor.Editor
