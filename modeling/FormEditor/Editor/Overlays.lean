import FormEditor.Editor.Structure

/-! Overlays are opened in the mode in which the form is built. Opening one takes the place of the one before. -/

namespace FormEditor.Editor

/-- Opens the menu of an element at a place on the screen. -/
def openMenu (editor : Editor) (elementId : String) (x y : Float) : Option Action × Editor :=
  if editor.mode = .editor ∧ (editor.form.findElement elementId).isSome then
    (some .overlayChanged, { editor with overlay := some (.menu elementId x y) })
  else (none, editor)

def closeOverlay (editor : Editor) : Option Action × Editor :=
  (editor.overlay.map fun _ => .overlayChanged, { editor with overlay := none })

/-- Opens the dialog of an element on a copy of it. -/
def openDialog (editor : Editor) (elementId : String) : Option Action × Editor :=
  match editor.mode, editor.form.findElement elementId with
  | .editor, some element => (some .overlayChanged, { editor with overlay := some (.dialog ⟨element⟩) })
  | _, _ => (none, editor)

/-- Chooses an entry of the open menu, which closes it. -/
def chooseEntry (editor : Editor) (choice : MenuEntry) (now : Time) : List Action × Editor :=
  match editor.overlay.bind Overlay.menuTarget? with
  | none => ([], editor)
  | some elementId =>
    let closed := { editor with overlay := none }
    let (actions, next) : List Action × Editor := match choice with
      | .edit =>
        let (action, next) := closed.openDialog elementId
        (action.toList, next)
      | .delete => closed.deleteElement elementId now
      | .duplicate => closed.duplicateElement elementId now
    (.overlayChanged :: actions, next)

/-- The open dialog. -/
def dialog? (editor : Editor) : Option EditDialog :=
  editor.overlay.bind Overlay.dialog?

/-- Changes the draft of the open dialog. -/
def changeDraft (editor : Editor) (change : EditDialog → EditDialog) : Editor :=
  match editor.dialog? with
  | some dialog => { editor with overlay := some (.dialog (change dialog)) }
  | none => editor

/-- Gives the draft another type. -/
def changeDraftType (editor : Editor) (type : ElementType) : Except EditError (Option Action) × Editor :=
  match editor.dialog? with
  | none => (.ok none, editor)
  | some dialog =>
    match dialog.changeType editor.form type with
    | .ok changed => (.ok (some .overlayChanged), { editor with overlay := some (.dialog changed) })
    | .error cause => (.error cause, editor)

/-- Closes the dialog and puts the draft in place of the element, if that is still there. -/
def saveDialog (editor : Editor) (now : Time) : List Action × Editor :=
  match editor.dialog? with
  | none => ([], editor)
  | some dialog =>
    let closed := { editor with overlay := none }
    match editor.form.updateElement dialog.draft with
    | .ok form => ([.overlayChanged, .elementUpdated dialog.elementId], closed.changeForm form now)
    | .error _ => ([.overlayChanged], closed)

/-- Closes the dialog and deletes its element. -/
def deleteFromDialog (editor : Editor) (now : Time) : List Action × Editor :=
  match editor.dialog? with
  | none => ([], editor)
  | some dialog =>
    let (actions, next) := { editor with overlay := none }.deleteElement dialog.elementId now
    (.overlayChanged :: actions, next)

/-- Closes the dialog without a change. -/
def cancelDialog (editor : Editor) : Option Action × Editor :=
  match editor.dialog? with
  | none => (none, editor)
  | some _ => (some .overlayChanged, { editor with overlay := none })

end FormEditor.Editor
