import FormEditor.Proofs.Editor.Operation
import FormEditor.Proofs.Form.Change

/-! What edits of the form leave behind. An edit changes the form in one of a few ways, takes its ids from the
supply, and hands a form that changed to the bridge of its text. It may move the drag on and change what lies
over the form; all else it leaves alone. -/

namespace FormEditor

theorem EditError.eq_ok_of_recover {α : Type} {result : Except EditError α} {value : α}
    (hrecovered : EditError.recover result = .ok (some value)) : result = .ok value := by
  unfold EditError.recover at hrecovered
  split at hrecovered
  · cases hrecovered
    rfl
  · cases hrecovered
  · cases hrecovered

/-! ### Drafts and drops -/

/-- A draft that takes another type becomes what an element of the form would. -/
theorem EditDialog.changeType_eq_ok {dialog changed : EditDialog} {form : Form} {type : ElementType}
    (hchanged : dialog.changeType form type = .ok changed) :
    changed = dialog ∨ ∃ definition, changed = ⟨dialog.draft.morph definition type⟩ := by
  unfold changeType at hchanged
  split at hchanged
  · cases hchanged
    exact Or.inl rfl
  · cases hmorph : form.morph dialog.draft type with
    | error cause =>
        rw [hmorph] at hchanged
        cases hchanged
    | ok element =>
        rw [hmorph] at hchanged
        cases hchanged
        obtain ⟨definition, -, hmade⟩ := eq_ok_of_bind hmorph
        cases hmade
        exact Or.inr ⟨definition, rfl⟩

namespace Drag

variable {form next : Form} {supply rest : IdSupply} {zone : DropZone} {outcome : DropOutcome}

theorem change_place {type : ElementType} (draft : Option Element)
    (hplaced : place form supply zone type = .ok (outcome, next, rest)) :
    form.Change supply draft next rest := by
  obtain ⟨⟨element, made⟩, hcreated, hplaced⟩ := eq_ok_of_bind hplaced
  obtain ⟨⟨landed, inserted, used⟩, hinserted, hplaced⟩ := eq_ok_of_bind hplaced
  cases hplaced
  exact .insert hcreated hinserted

theorem change_drop {drag : Drag} {data : TransferData} (draft : Option Element)
    (hdropped : (drag.drop form supply zone data).2 = .ok (outcome, next, rest)) :
    form.Change supply draft next rest := by
  obtain ⟨type, -, hdropped⟩ := eq_ok_of_bind hdropped
  cases type with
  | none =>
      cases hdropped
      exact .keep
  | some type =>
      simp only at hdropped
      split at hdropped
      · cases hdropped
        exact .keep
      · exact change_place draft hdropped

theorem change_dropOnCanvas {drag : Drag} {data : TransferData} (draft : Option Element)
    (hdropped : (drag.dropOnCanvas form supply data).2 = .ok (outcome, next, rest)) :
    form.Change supply draft next rest := by
  unfold dropOnCanvas at hdropped
  split at hdropped
  · cases hdropped
    exact .keep
  · exact change_drop draft hdropped

theorem dropOnCanvas_idle (drag : Drag) (form : Form) (ids : IdSupply) (data : TransferData) :
    (drag.dropOnCanvas form ids data).1 = .idle := by
  unfold dropOnCanvas
  split <;> rfl

end Drag

/-- Whether an operation opens, edits or closes what lies over the form, without saving it. -/
def Operation.staysOverForm : Operation → Bool
  | .openMenu .. | .chooseEntry .edit | .closeOverlay => true
  | .openDialog _ | .changeDraft _ | .changeDraftType _ | .cancelDialog => true
  | _ => false

namespace Editor

/-! ### What an edit can do -/

/-- The element that a dialog can be opened on: one of the form, while the form is built. -/
def editable? (editor : Editor) (elementId : String) : Option Element :=
  if editor.mode = .editor then editor.form.findElement elementId else none

/-- The element whose dialog an operation opens. -/
def opens? (editor : Editor) : Operation → Option Element
  | .openDialog elementId => editor.editable? elementId
  | .chooseEntry .edit => (editor.overlay.bind Overlay.menuTarget?).bind editor.editable?
  | _ => none

/-- The drag after an operation. -/
def dragAfter (editor : Editor) : Operation → Drag
  | .dragStart type => editor.drag.start type
  | .dragOver zone => editor.drag.hover zone
  | .dragLeave zone => editor.drag.leave zone
  | .dragEnd | .drop .. | .dropOnCanvas _ => .idle
  | _ => editor.drag

/-- The draft in the open dialog. -/
def draft? (editor : Editor) : Option Element :=
  editor.dialog?.map (·.draft)

/-- What can lie over the form after an operation, given the element whose dialog it opened. -/
inductive Layer (editor : Editor) : Option Element → Option Overlay → Prop where
  | keep : Layer editor none editor.overlay
  | close : Layer editor none none
  | menu (hmode : editor.mode = .editor) (elementId : String) (x y : Float) :
      Layer editor none (some (.menu elementId x y))
  | dialog {element : Element} (hmode : editor.mode = .editor) (hmem : element ∈ editor.form.elements) :
      Layer editor (some element) (some (.dialog ⟨element⟩))
  | draft {dialog : EditDialog} (hdialog : editor.dialog? = some dialog) (edit : DraftEdit) :
      Layer editor none (some (.dialog (edit.apply dialog)))

theorem Layer.of_closed {editor : Editor} {opened : Option Element} {overlay : Option Overlay}
    (hlayer : { editor with overlay := none }.Layer opened overlay) : editor.Layer opened overlay := by
  cases hlayer with
  | keep | close => exact .close
  | menu hmode elementId x y => exact @Layer.menu editor hmode elementId x y
  | dialog hmode hmem => exact @Layer.dialog editor _ hmode hmem
  | draft hdialog _ => cases hdialog

/-! ### What stays over the form -/

/-- What an operation that changes nothing but the overlay can leave behind. -/
def Covers (editor : Editor) (opened : Option Element) (next : Editor) : Prop :=
  ∃ overlay, editor.Layer opened overlay ∧ next = { editor with overlay }

section

variable {editor next : Editor} {opened : Option Element}

theorem Covers.refl : editor.Covers none editor :=
  ⟨editor.overlay, .keep, rfl⟩

theorem Layer.covers {overlay : Option Overlay} (hlayer : editor.Layer opened overlay) :
    editor.Covers opened { editor with overlay } :=
  ⟨overlay, hlayer, rfl⟩

theorem Covers.of_closed (hcovers : { editor with overlay := none }.Covers opened next) :
    editor.Covers opened next := by
  obtain ⟨overlay, hlayer, rfl⟩ := hcovers
  exact hlayer.of_closed.covers

end

section

variable (editor : Editor) (now : Time)

theorem covers_openMenu (elementId : String) (x y : Float) :
    editor.Covers none (editor.openMenu elementId x y).2 := by
  unfold openMenu
  split
  · rename_i hopens
    exact (Layer.menu hopens.1 elementId x y).covers
  · exact .refl

/-- A dialog opens on an element that is there while the form is built, and on no other. -/
theorem covers_openDialog (elementId : String) :
    editor.Covers (editor.editable? elementId) (editor.openDialog elementId).2 := by
  unfold openDialog editable?
  by_cases hmode : editor.mode = .editor
  · rw [if_pos hmode]
    split
    · rename_i hfound
      rw [hfound]
      exact (Layer.dialog hmode (List.mem_of_find?_eq_some hfound)).covers
    · rename_i hmissing
      cases hfound : editor.form.findElement elementId with
      | none => exact .refl
      | some element => exact absurd hfound (hmissing element hmode)
  · rw [if_neg hmode]
    split
    · rename_i heditor _
      exact absurd heditor hmode
    · exact .refl

theorem covers_chooseEdit : editor.Covers (editor.opens? (.chooseEntry .edit)) (editor.chooseEntry .edit now).2 := by
  unfold chooseEntry
  split
  · rename_i hmenu
    rw [opens?, hmenu]
    exact .refl
  · rename_i elementId hmenu
    rw [opens?, hmenu]
    exact .of_closed (covers_openDialog { editor with overlay := none } elementId)

theorem covers_changeDraft (edit : DraftEdit) : editor.Covers none (editor.changeDraft edit.apply) := by
  unfold changeDraft
  split
  · rename_i hdialog
    exact (Layer.draft hdialog edit).covers
  · exact .refl

theorem covers_changeDraftType (type : ElementType) : editor.Covers none (editor.changeDraftType type).2 := by
  unfold changeDraftType
  split
  · exact .refl
  · rename_i hdialog
    split
    · rename_i hchanged
      have hlayer := Layer.draft hdialog (.type editor.form type)
      rw [DraftEdit.apply, hchanged] at hlayer
      exact hlayer.covers
    · exact .refl

theorem covers_cancelDialog : editor.Covers none editor.cancelDialog.2 := by
  unfold cancelDialog
  split
  · exact .refl
  · exact Layer.close.covers

theorem covers_perform [PatternEngine] {operation : Operation} (hover : operation.staysOverForm) :
    editor.Covers (editor.opens? operation) (editor.perform operation now).2 := by
  cases operation with
  | openMenu elementId x y => exact editor.covers_openMenu elementId x y
  | closeOverlay => exact Layer.close.covers
  | chooseEntry choice =>
      cases choice with
      | edit => exact editor.covers_chooseEdit now
      | delete | duplicate => cases hover
  | openDialog elementId => exact editor.covers_openDialog elementId
  | changeDraft edit => exact editor.covers_changeDraft edit
  | changeDraftType type => exact editor.covers_changeDraftType type
  | cancelDialog => exact editor.covers_cancelDialog
  | setMode | pressButton | loadRecords | setPaletteSearch | dragStart | dragOver | dragLeave | dragEnd | drop
  | dropOnCanvas | deleteElement | duplicateElement | morphElement | moveRow | rename | saveDialog
  | deleteFromDialog | setFieldValue | submit | formTextChanged | recordTextChanged | poll | settle =>
      cases hover

end

/-! ### Edits -/

/-- What an edit of the form can leave behind at a time, given the element whose dialog it opened and the drag
after it. -/
structure Edits (editor : Editor) (now : Time) (opened : Option Element) (drag : Drag) (next : Editor) : Prop
    extends editor.EditsForm now next where
  change : editor.form.Change editor.ids editor.draft? next.form next.ids
  overlay : editor.Layer opened next.overlay
  drag : next.drag = drag

namespace Edits

variable {editor next : Editor} {now : Time} {opened : Option Element} {drag : Drag}

/-- Drags, overlays and searches leave the form as it is. -/
theorem same {overlay : Option Overlay} (hlayer : editor.Layer opened overlay) (drag : Drag)
    (paletteSearch : String) : editor.Edits now opened drag { editor with drag, overlay, paletteSearch } where
  toEditsForm := .same drag overlay paletteSearch editor.ids
  change := .keep
  overlay := hlayer
  drag := rfl

theorem refl : editor.Edits now none editor.drag editor :=
  same .keep editor.drag editor.paletteSearch

theorem covered (hcovers : editor.Covers opened next) : editor.Edits now opened editor.drag next := by
  obtain ⟨overlay, hlayer, rfl⟩ := hcovers
  exact same hlayer editor.drag editor.paletteSearch

theorem changed {form : Form} {ids : IdSupply} (hchange : editor.form.Change editor.ids editor.draft? form ids)
    {overlay : Option Overlay} (hlayer : editor.Layer opened overlay) (drag : Drag) :
    editor.Edits now opened drag ({ editor with drag, overlay, ids }.changeForm form now) where
  toEditsForm := .changed drag overlay ids form
  change := hchange
  overlay := hlayer
  drag := rfl

/-- An overlay that closes first is not there any more. -/
theorem of_closed (hedits : { editor with overlay := none }.Edits now opened drag next) :
    editor.Edits now opened drag next := by
  obtain ⟨hform, hchange, hlayer, hdrag⟩ := hedits
  exact ⟨.of_closed hform, hchange.of_none, hlayer.of_closed, hdrag⟩

end Edits

variable (editor : Editor) (now : Time)

theorem edits_dropped (drag : Drag) {outcome : Except EditError (DropOutcome × Form × IdSupply)}
    (houtcome : ∀ placed form supply, outcome = .ok (placed, form, supply) →
      editor.form.Change editor.ids editor.draft? form supply) :
    editor.Edits now none drag (editor.dropped now drag outcome).2 := by
  unfold dropped
  split
  · rename_i hrecovered
    exact .changed (houtcome _ _ _ (EditError.eq_ok_of_recover hrecovered)) .keep drag
  · exact .same .keep drag editor.paletteSearch
  · exact .same .keep drag editor.paletteSearch

theorem edits_dropOnCanvas (data : TransferData) : editor.Edits now none .idle (editor.dropOnCanvas data now).2 := by
  rw [← editor.drag.dropOnCanvas_idle editor.form editor.ids data]
  exact edits_dropped editor now _ fun _ _ _ hdropped => Drag.change_dropOnCanvas _ hdropped

theorem edits_deleteElement (elementId : String) :
    editor.Edits now none editor.drag (editor.deleteElement elementId now).2 := by
  unfold deleteElement
  split
  · exact .refl
  · exact .changed (.delete _ elementId) .keep editor.drag

theorem edits_duplicateElement (elementId : String) :
    editor.Edits now none editor.drag (editor.duplicateElement elementId now).2 := by
  unfold duplicateElement
  split
  · rename_i hcopied
    exact .changed (.duplicate hcopied) .keep editor.drag
  · exact .refl

theorem edits_morphElement (elementId : String) (type : ElementType) :
    editor.Edits now none editor.drag (editor.morphElement elementId type now).2 := by
  unfold morphElement
  split
  · rename_i hrecovered
    exact .changed (.morph (EditError.eq_ok_of_recover hrecovered)) .keep editor.drag
  · exact .refl
  · exact .refl

theorem edits_moveRow (rowId : String) (direction : MoveDirection) :
    editor.Edits now none editor.drag (editor.moveRow rowId direction now).2 := by
  unfold moveRow
  split
  · rename_i hmoved
    exact .changed (.moveRow hmoved) .keep editor.drag
  · exact .refl

theorem edits_chooseEntry (choice : MenuEntry) :
    editor.Edits now (editor.opens? (.chooseEntry choice)) editor.drag (editor.chooseEntry choice now).2 := by
  cases choice with
  | edit => exact .covered (editor.covers_chooseEdit now)
  | delete =>
      unfold chooseEntry
      split
      · exact .refl
      · exact .of_closed (edits_deleteElement _ now _)
  | duplicate =>
      unfold chooseEntry
      split
      · exact .refl
      · exact .of_closed (edits_duplicateElement _ now _)

theorem edits_saveDialog : editor.Edits now none editor.drag (editor.saveDialog now).2 := by
  unfold saveDialog
  split
  · exact .refl
  · rename_i dialog hdialog
    have hdraft : editor.draft? = some dialog.draft := by rw [draft?, hdialog]; rfl
    split
    · rename_i hupdated
      exact .changed (.save hdraft hupdated) .close editor.drag
    · exact .same .close editor.drag editor.paletteSearch

theorem edits_deleteFromDialog : editor.Edits now none editor.drag (editor.deleteFromDialog now).2 := by
  unfold deleteFromDialog
  split
  · exact .refl
  · exact .of_closed (edits_deleteElement _ now _)

theorem edits_perform [PatternEngine] {operation : Operation} (hedit : operation.isFormEdit) :
    editor.Edits now (editor.opens? operation) (editor.dragAfter operation) (editor.perform operation now).2 := by
  cases operation with
  | setPaletteSearch | dragStart | dragOver | dragLeave | dragEnd => exact .same .keep _ _
  | drop zone data => exact edits_dropped editor now .idle fun _ _ _ hdropped => Drag.change_drop _ hdropped
  | dropOnCanvas data => exact edits_dropOnCanvas editor now data
  | deleteElement elementId => exact edits_deleteElement editor now elementId
  | duplicateElement elementId => exact edits_duplicateElement editor now elementId
  | morphElement elementId type => exact edits_morphElement editor now elementId type
  | moveRow rowId direction => exact edits_moveRow editor now rowId direction
  | rename name => exact .changed (.rename name) .keep editor.drag
  | chooseEntry choice => exact edits_chooseEntry editor now choice
  | openMenu | closeOverlay | openDialog | changeDraft | changeDraftType | cancelDialog =>
      exact .covered (editor.covers_perform now rfl)
  | saveDialog => exact edits_saveDialog editor now
  | deleteFromDialog => exact edits_deleteFromDialog editor now
  | setMode | pressButton | loadRecords | setFieldValue | submit | formTextChanged | recordTextChanged
  | poll | settle => cases hedit

theorem editsForm_perform [PatternEngine] {operation : Operation} (hedit : operation.isFormEdit) :
    editor.EditsForm now (editor.perform operation now).2 :=
  (editor.edits_perform now hedit).toEditsForm

end Editor

end FormEditor
