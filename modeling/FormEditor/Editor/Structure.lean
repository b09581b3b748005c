import FormEditor.Editor.Basic

/-! Drags from the palette and the edits of rows and elements. An edit of something that is not there does
nothing; a type without a definition is an error, and the form stays as it was. -/

namespace FormEditor.Editor

/-- Starts a drag, and gives the data that goes with it. -/
def dragStart (editor : Editor) (type : ElementType) : TransferData × Editor :=
  (.ofType type, { editor with drag := editor.drag.start type })

def dragOver (editor : Editor) (zone : DropZone) : Editor :=
  { editor with drag := editor.drag.hover zone }

def dragLeave (editor : Editor) (zone : DropZone) : Editor :=
  { editor with drag := editor.drag.leave zone }

def dragEnd (editor : Editor) : Editor :=
  { editor with drag := .idle }

/-- Takes up what came of a drop. -/
def dropped (editor : Editor) (now : Time) (drag : Drag)
    (outcome : Except EditError (DropOutcome × Form × IdSupply)) :
    Except EditError (List Action) × Editor :=
  match EditError.recover outcome with
  | .ok (some (.placed elementId sectionId rowIndex, form, ids)) =>
    (.ok [.elementCreated elementId sectionId rowIndex], { editor with drag, ids }.changeForm form now)
  | .ok _ => (.ok [], { editor with drag })
  | .error cause => (.error cause, { editor with drag })

def drop (editor : Editor) (zone : DropZone) (data : TransferData) (now : Time) :
    Except EditError (List Action) × Editor :=
  let (drag, outcome) := editor.drag.drop editor.form editor.ids zone data
  editor.dropped now drag outcome

def dropOnCanvas (editor : Editor) (data : TransferData) (now : Time) :
    Except EditError (List Action) × Editor :=
  let (drag, outcome) := editor.drag.dropOnCanvas editor.form editor.ids data
  editor.dropped now drag outcome

def deleteElement (editor : Editor) (elementId : String) (now : Time) : List Action × Editor :=
  match editor.form.findElement elementId with
  | none => ([], editor)
  | some _ =>
    let (rowsRemoved, form) := editor.form.deleteElement editor.config.deletePolicy elementId
    ([.elementDeleted elementId rowsRemoved], editor.changeForm form now)

def duplicateElement (editor : Editor) (elementId : String) (now : Time) : List Action × Editor :=
  match editor.form.duplicate editor.ids elementId with
  | .ok (newId, form, ids) =>
    ([.elementDuplicated elementId newId], { editor with ids }.changeForm form now)
  | .error _ => ([], editor)

/-- Changes the type of an element in place. -/
def morphElement (editor : Editor) (elementId : String) (type : ElementType) (now : Time) :
    Except EditError (List Action) × Editor :=
  match EditError.recover (editor.form.morphElement elementId type) with
  | .ok (some form) => (.ok [.elementUpdated elementId], editor.changeForm form now)
  | .ok none => (.ok [], editor)
  | .error cause => (.error cause, editor)

def moveRow (editor : Editor) (rowId : String) (direction : MoveDirection) (now : Time) :
    List Action × Editor :=
  match editor.form.moveRow rowId direction with
  | .ok (true, form) => ([.rowMoved rowId], editor.changeForm form now)
  | _ => ([], editor)

def rename (editor : Editor) (name : String) (now : Time) : Action × Editor :=
  (.formRenamed name, editor.changeForm (editor.form.rename name) now)

end FormEditor.Editor
