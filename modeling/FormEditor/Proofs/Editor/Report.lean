import FormEditor.Proofs.Editor.Frame

/-! What operations report. An attempt does what it is asked for or nothing at all: if it reports nothing,
because it failed or because there was nothing to do, the editor is as it was before. The only traces of such
an attempt are that a drop ends the drag and that a submission validates the entry. Edits of the form report
nothing of the text of a record. -/

namespace FormEditor

/-- Whether an action tells what became of the text of a record. -/
def Action.isOfRecordText : Action → Bool
  | .recordReplaced _ => true
  | .textPushed mode => mode = .formDataJson
  | _ => false

/-- Whether an operation reports whatever it does. The others report nothing at all, or run the bridges. -/
def Operation.isAttempt : Operation → Bool
  | .loadRecords _ | .setPaletteSearch _ | .dragStart _ | .dragOver _ | .dragLeave _ | .dragEnd
  | .changeDraft _ | .formTextChanged _ | .recordTextChanged _ | .poll | .settle => false
  | _ => true

namespace Editor

/-- What an attempt leaves behind that comes to nothing. -/
def attempted [PatternEngine] (editor : Editor) : Operation → Editor
  | .drop .. | .dropOnCanvas _ => editor.dragEnd
  | .submit =>
    if editor.mode.isEntry then { editor with entry := editor.entry.validateAll editor.form } else editor
  | _ => editor

theorem values_attempted [PatternEngine] (editor : Editor) (operation : Operation) :
    (editor.attempted operation).entry.values = editor.entry.values := by
  unfold attempted
  split
  · rfl
  · rfl
  · split
    · exact Entry.values_validateAll editor.entry editor.form
    · rfl
  · rfl

/-- What can come of an attempt that says nothing of the text of a record. -/
structure Attempts (editor : Editor) (result : List Action × Editor) : Prop where
  unchanged : result.1 = [] → result.2 = editor
  unread : ∀ action ∈ result.1, action.isOfRecordText = false

variable (editor : Editor) (now : Time)

namespace Attempts

variable {editor}

theorem nothing : editor.Attempts ([], editor) :=
  ⟨fun _ => rfl, List.forall_mem_nil _⟩

theorem reported {action : Action} (haction : action.isOfRecordText = false) {actions : List Action}
    (hactions : ∀ other ∈ actions, other.isOfRecordText = false) (next : Editor) :
    editor.Attempts (action :: actions, next) :=
  ⟨nofun, List.forall_mem_cons.mpr ⟨haction, hactions⟩⟩

theorem single {action : Action} (haction : action.isOfRecordText = false) (next : Editor) :
    editor.Attempts ([action], next) :=
  reported haction (List.forall_mem_nil _) next

end Attempts

/-! ### Edits of the form -/

theorem attempts_dropped (drag : Drag) (outcome : Except EditError (DropOutcome × Form × IdSupply)) :
    { editor with drag }.Attempts ((editor.dropped now drag outcome).map Editor.reported id) := by
  unfold dropped
  split
  · exact .single rfl _
  · exact .nothing
  · exact .nothing

theorem attempts_drop (zone : DropZone) (data : TransferData) :
    editor.dragEnd.Attempts ((editor.drop zone data now).map Editor.reported id) :=
  attempts_dropped editor now .idle _

theorem attempts_dropOnCanvas (data : TransferData) :
    editor.dragEnd.Attempts ((editor.dropOnCanvas data now).map Editor.reported id) := by
  have hidle : (editor.drag.dropOnCanvas editor.form editor.ids data).1 = .idle := by
    unfold Drag.dropOnCanvas
    split <;> rfl
  rw [dragEnd, ← hidle]
  exact attempts_dropped editor now _ _

theorem attempts_deleteElement (elementId : String) :
    editor.Attempts (editor.deleteElement elementId now) := by
  unfold deleteElement
  split
  · exact .nothing
  · exact .single rfl _

theorem attempts_duplicateElement (elementId : String) :
    editor.Attempts (editor.duplicateElement elementId now) := by
  unfold duplicateElement
  split
  · exact .single rfl _
  · exact .nothing

theorem attempts_morphElement (elementId : String) (type : ElementType) :
    editor.Attempts ((editor.morphElement elementId type now).map Editor.reported id) := by
  unfold morphElement
  split
  · exact .single rfl _
  · exact .nothing
  · exact .nothing

theorem attempts_moveRow (rowId : String) (direction : MoveDirection) :
    editor.Attempts (editor.moveRow rowId direction now) := by
  unfold moveRow
  split
  · exact .single rfl _
  · exact .nothing

theorem attempts_openMenu (elementId : String) (x y : Float) :
    editor.Attempts ((editor.openMenu elementId x y).map Option.toList id) := by
  unfold openMenu
  split
  · exact .single rfl _
  · exact .nothing

theorem attempts_openDialog (elementId : String) :
    editor.Attempts ((editor.openDialog elementId).map Option.toList id) := by
  unfold openDialog
  split
  · exact .single rfl _
  · exact .nothing

/-- The chosen entry works on the editor with the menu closed, and the closing is reported. -/
theorem attempts_chooseEntry (choice : MenuEntry) : editor.Attempts (editor.chooseEntry choice now) := by
  unfold chooseEntry
  split
  · exact .nothing
  · cases choice with
    | edit => exact .reported rfl (attempts_openDialog { editor with overlay := none } _).unread _
    | delete => exact .reported rfl (attempts_deleteElement { editor with overlay := none } now _).unread _
    | duplicate =>
        exact .reported rfl (attempts_duplicateElement { editor with overlay := none } now _).unread _

theorem attempts_changeDraftType (type : ElementType) :
    editor.Attempts
      ((editor.changeDraftType type).map (fun result => Editor.reported (result.map Option.toList)) id) := by
  unfold changeDraftType
  split
  · exact .nothing
  · split
    · exact .single rfl _
    · exact .nothing

theorem attempts_saveDialog : editor.Attempts (editor.saveDialog now) := by
  unfold saveDialog
  split
  · exact .nothing
  · split
    · exact .reported rfl (List.forall_mem_singleton.mpr rfl) _
    · exact .single rfl _

theorem attempts_deleteFromDialog : editor.Attempts (editor.deleteFromDialog now) := by
  unfold deleteFromDialog
  split
  · exact .nothing
  · exact .reported rfl (attempts_deleteElement { editor with overlay := none } now _).unread _

theorem attempts_closeOverlay : editor.Attempts (editor.closeOverlay.map Option.toList id) := by
  unfold closeOverlay
  cases hoverlay : editor.overlay with
  | none =>
      refine ⟨fun _ => ?_, List.forall_mem_nil _⟩
      rw [← hoverlay]
      rfl
  | some overlay => exact .single rfl _

theorem attempts_cancelDialog : editor.Attempts (editor.cancelDialog.map Option.toList id) := by
  unfold cancelDialog
  split
  · exact .nothing
  · exact .single rfl _

theorem attempts_rename (name : String) :
    editor.Attempts ((editor.rename name now).map (fun action => [action]) id) :=
  .single rfl _

/-- No edit of the form reports anything of the text of a record. -/
theorem unread_of_isFormEdit [PatternEngine] {operation : Operation} (hedit : operation.isFormEdit) :
    ∀ action ∈ (editor.perform operation now).1, action.isOfRecordText = false := by
  cases operation with
  | setPaletteSearch | dragStart | dragOver | dragLeave | dragEnd | changeDraft =>
      exact List.forall_mem_nil _
  | drop zone data => exact (attempts_drop editor now zone data).unread
  | dropOnCanvas data => exact (attempts_dropOnCanvas editor now data).unread
  | deleteElement elementId => exact (attempts_deleteElement editor now elementId).unread
  | duplicateElement elementId => exact (attempts_duplicateElement editor now elementId).unread
  | morphElement elementId type => exact (attempts_morphElement editor now elementId type).unread
  | moveRow rowId direction => exact (attempts_moveRow editor now rowId direction).unread
  | rename name => exact (attempts_rename editor now name).unread
  | openMenu elementId x y => exact (attempts_openMenu editor elementId x y).unread
  | closeOverlay => exact (attempts_closeOverlay editor).unread
  | chooseEntry choice => exact (attempts_chooseEntry editor now choice).unread
  | openDialog elementId => exact (attempts_openDialog editor elementId).unread
  | changeDraftType type => exact (attempts_changeDraftType editor type).unread
  | saveDialog => exact (attempts_saveDialog editor now).unread
  | deleteFromDialog => exact (attempts_deleteFromDialog editor now).unread
  | cancelDialog => exact (attempts_cancelDialog editor).unread
  | setMode | pressButton | loadRecords | setFieldValue | submit | formTextChanged | recordTextChanged
  | poll | settle => cases hedit

theorem unread_pollForm : ∀ action ∈ (editor.pollForm now).1, action.isOfRecordText = false := by
  unfold pollForm
  split
  · exact List.forall_mem_singleton.mpr rfl
  · exact List.forall_mem_singleton.mpr rfl
  · exact List.forall_mem_nil _

/-! ### Uses of the records -/

theorem attempts_setFieldValue [PatternEngine] (fieldId : String) (value : Json) :
    editor.Attempts ((editor.setFieldValue fieldId value).map Option.toList id) := by
  have henters := editor.enters_setFieldValue fieldId value
  generalize editor.setFieldValue fieldId value = result at henters ⊢
  cases henters with
  | ignored => exact .nothing
  | entered => exact .single rfl _

theorem attempts_submit [PatternEngine] : (editor.attempted .submit).Attempts (editor.submit now) := by
  have hsubmits := editor.submits_submit now
  generalize editor.submit now = result at hsubmits ⊢
  cases hsubmits with
  | ignored hmode =>
      have hsame : editor.attempted .submit = editor := if_neg (Bool.eq_false_iff.mp hmode)
      rw [hsame]
      exact .nothing
  | lost hmode =>
      have hvalidated : editor.attempted .submit = { editor with entry := editor.entry.validateAll editor.form } :=
        if_pos (by rw [hmode]; rfl)
      rw [hvalidated]
      exact .nothing
  | refused | added | updated => exact .single rfl _

theorem attempts_deleteRecord (id : RecordId) : editor.Attempts (editor.deleteRecord id) := by
  have hremoves := editor.removes_deleteRecord id
  generalize editor.deleteRecord id = result at hremoves ⊢
  cases hremoves with
  | missing => exact .nothing
  | closed => exact .reported rfl (List.forall_mem_singleton.mpr rfl) _
  | removed => exact .single rfl _

/-- A button of a record that is not there does nothing; otherwise something is reported. -/
theorem pressButton_eq_of_unreported {id : RecordId} {button : ListButton}
    (hnothing : (editor.pressButton id button now).1 = []) : (editor.pressButton id button now).2 = editor := by
  have hopen (mode : ViewMode) (hopened : (editor.openRecord id mode now).1 = []) :
      (editor.openRecord id mode now).2 = editor := by
    have hopens := editor.opens_openRecord id mode now
    generalize editor.openRecord id mode now = result at hopens hopened ⊢
    cases hopens with
    | missing => rfl
    | again => cases hopened
    | switched => exact absurd (List.append_eq_nil_iff.mp hopened).2 (List.cons_ne_nil _ _)
  cases button with
  | view => exact hopen .view hnothing
  | update => exact hopen .update hnothing
  | delete => exact (attempts_deleteRecord editor id).unchanged hnothing

/-- An attempt that reports nothing changes nothing. -/
theorem eq_attempted_of_unreported [PatternEngine] {operation : Operation} (hattempt : operation.isAttempt)
    (hnothing : (editor.perform operation now).1 = []) :
    (editor.perform operation now).2 = editor.attempted operation := by
  cases operation with
  | pressButton id button => exact pressButton_eq_of_unreported editor now hnothing
  | drop zone data => exact (attempts_drop editor now zone data).unchanged hnothing
  | dropOnCanvas data => exact (attempts_dropOnCanvas editor now data).unchanged hnothing
  | deleteElement elementId => exact (attempts_deleteElement editor now elementId).unchanged hnothing
  | duplicateElement elementId => exact (attempts_duplicateElement editor now elementId).unchanged hnothing
  | morphElement elementId type => exact (attempts_morphElement editor now elementId type).unchanged hnothing
  | moveRow rowId direction => exact (attempts_moveRow editor now rowId direction).unchanged hnothing
  | openMenu elementId x y => exact (attempts_openMenu editor elementId x y).unchanged hnothing
  | chooseEntry choice => exact (attempts_chooseEntry editor now choice).unchanged hnothing
  | openDialog elementId => exact (attempts_openDialog editor elementId).unchanged hnothing
  | changeDraftType type => exact (attempts_changeDraftType editor type).unchanged hnothing
  | saveDialog => exact (attempts_saveDialog editor now).unchanged hnothing
  | deleteFromDialog => exact (attempts_deleteFromDialog editor now).unchanged hnothing
  | setFieldValue fieldId value => exact (attempts_setFieldValue editor fieldId value).unchanged hnothing
  | submit => exact (attempts_submit editor now).unchanged hnothing
  | setMode mode => cases hnothing
  | rename name => cases hnothing
  | closeOverlay => exact (attempts_closeOverlay editor).unchanged hnothing
  | cancelDialog => exact (attempts_cancelDialog editor).unchanged hnothing
  | loadRecords | setPaletteSearch | dragStart | dragOver | dragLeave | dragEnd | changeDraft
  | formTextChanged | recordTextChanged | poll | settle => cases hattempt

end Editor

end FormEditor
