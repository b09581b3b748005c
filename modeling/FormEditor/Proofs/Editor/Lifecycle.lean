import FormEditor.Pattern.Standard
import FormEditor.Proofs.Editor.Step

/-! The life of an overlay. Only the mode in which the form is built opens one, and every other mode closes it,
also where a use of the records changes the mode. A dialog is opened on an element of the form, whose id its
draft keeps; until the draft is saved, the form does not change on its account. -/

namespace FormEditor

theorem EditDialog.elementId_changeType {dialog changed : EditDialog} {form : Form} {type : ElementType}
    (hchanged : dialog.changeType form type = .ok changed) : changed.elementId = dialog.elementId := by
  rcases changeType_eq_ok hchanged with rfl | ⟨definition, rfl⟩
  · rfl
  · exact Element.id_morph dialog.draft definition type

theorem DraftEdit.elementId_apply (edit : DraftEdit) (dialog : EditDialog) :
    (edit.apply dialog).elementId = dialog.elementId := by
  cases edit with
  | text | subtitle | description | placeholder | options =>
      obtain ⟨draft⟩ := dialog
      cases draft <;> rfl
  | type form type =>
      rw [apply]
      cases hchanged : dialog.changeType form type with
      | error cause => rfl
      | ok changed => exact EditDialog.elementId_changeType hchanged

namespace Editor

variable {editor next : Editor} {before opened : Option Element} {drag : Drag} {actions : List Action}

/-! ### The open overlay -/

/-- The element whose dialog was opened last, in a run that follows on the opening of another. -/
def lastOpened [PatternEngine] (editor : Editor) (before : Option Element) : List (Operation × Time) → Option Element
  | [] => before
  | (operation, now) :: steps =>
    (editor.perform operation now).2.lastOpened ((editor.opens? operation).or before) steps

/-- An overlay lies over a form that is built, and a dialog is that of the element it was opened on. -/
structure HasOverlayOf (editor : Editor) (opened : Option Element) : Prop where
  mode : editor.overlay.isSome → editor.mode = .editor
  dialog : ∀ dialog, editor.dialog? = some dialog → opened.map (·.id) = some dialog.elementId

namespace HasOverlayOf

theorem of_none (hnone : editor.overlay = none) : editor.HasOverlayOf opened := by
  refine ⟨?_, ?_⟩
  · rw [hnone]
    nofun
  · intro dialog hdialog
    rw [dialog?, hnone] at hdialog
    cases hdialog

/-- The form is built while anything is put over it, and what is there goes with the mode. -/
theorem mode_of_layer (hoverlay : editor.HasOverlayOf before) {overlay : Option Overlay}
    (hlayer : editor.Layer opened overlay) : overlay.isSome → editor.mode = .editor := by
  cases hlayer with
  | keep => exact hoverlay.mode
  | close => nofun
  | menu heditor | dialog heditor => exact fun _ => heditor
  | draft hdialog =>
      intro _
      obtain ⟨overlay, hopen, -⟩ := Option.bind_eq_some_iff.mp hdialog
      exact hoverlay.mode (Option.isSome_iff_exists.mpr ⟨overlay, hopen⟩)

theorem dialog_of_layer (hoverlay : editor.HasOverlayOf before) {overlay : Option Overlay}
    (hlayer : editor.Layer opened overlay) : ∀ dialog, overlay.bind Overlay.dialog? = some dialog →
      (opened.or before).map (·.id) = some dialog.elementId := by
  cases hlayer with
  | keep => exact hoverlay.dialog
  | close | menu =>
      intro dialog hnone
      cases hnone
  | dialog =>
      rintro dialog ⟨rfl⟩
      rfl
  | draft hdialog edit =>
      rintro changed ⟨rfl⟩
      rw [edit.elementId_apply]
      exact hoverlay.dialog _ hdialog

/-- Every step opens, keeps or closes the overlay as the mode has it. -/
theorem step (hoverlay : editor.HasOverlayOf before) (hstep : editor.Step opened drag actions next) :
    next.HasOverlayOf (opened.or before) := by
  refine ⟨?_, hoverlay.dialog_of_layer hstep.layer⟩
  intro hopen
  rcases hstep.mode with hsame | heditor | hnone
  · rw [hsame]
    exact hoverlay.mode_of_layer hstep.layer hopen
  · exact heditor
  · rw [hnone] at hopen
    cases hopen

theorem run [PatternEngine] (steps : List (Operation × Time)) : ∀ {editor : Editor} {before : Option Element},
    editor.HasOverlayOf before → (editor.run steps).HasOverlayOf (editor.lastOpened before steps) := by
  induction steps with
  | nil => exact fun hoverlay => hoverlay
  | cons step steps ih =>
      exact fun {editor before} hoverlay => ih (hoverlay.step (editor.step_perform step.1 step.2))

end HasOverlayOf

/-! ### The form beneath -/

/-- A draft that is saved is put into the form, also where it no longer takes a place. -/
theorem saveDialog_of_dialog (editor : Editor) {dialog : EditDialog} (hdialog : editor.dialog? = some dialog)
    (now : Time) :
    (editor.saveDialog now).2.form = editor.form.put dialog.draft ∧ (editor.saveDialog now).2.overlay = none := by
  unfold saveDialog
  rw [hdialog]
  simp only
  split
  · rename_i hupdated
    exact ⟨Form.updateElement_eq_ok hupdated, rfl⟩
  · rename_i hrefused
    exact ⟨(Form.put_eq_self (Form.updateElement_eq_error hrefused)).symm, rfl⟩

/-- **The life of an overlay.** After any run of an editor, which was started on any form in any mode, an
overlay lies only over a form that is built, and the draft in a dialog has the id of the element whose dialog
was opened last. Opening, editing, cancelling and closing an overlay change nothing but the overlay. To
save a dialog closes it and puts the draft in the place of the elements of its id, which leaves all else in
the form as it is, and the whole form if no element has that id any more. -/
theorem overlay_lives_over_the_form [PatternEngine] (form : Form) (config : EditorConfig) (supply : IdSupply)
    (begun : Time) (steps : List (Operation × Time)) :
    let started := start form config supply begun
    let editor := started.run steps
    (editor.overlay.isSome → editor.mode = .editor) ∧
    (∀ dialog, editor.dialog? = some dialog →
      (started.lastOpened none steps).map (·.id) = some dialog.draft.id) ∧
    (∀ operation : Operation, operation.staysOverForm → ∀ now,
      ∃ overlay, (editor.perform operation now).2 = { editor with overlay }) ∧
    (editor.dialog? = none → ∀ now, (editor.saveDialog now).2 = editor) ∧
    ∀ dialog, editor.dialog? = some dialog → ∀ now,
      let saved := (editor.saveDialog now).2
      saved.overlay = none ∧ Form.Replaces dialog.draft editor.form saved.form ∧
        ((∀ element ∈ editor.form.elements, element.id ≠ dialog.draft.id) → saved.form = editor.form) := by
  intro started editor
  have hoverlay : editor.HasOverlayOf (started.lastOpened none steps) :=
    HasOverlayOf.run steps (.of_none rfl)
  refine ⟨hoverlay.mode, hoverlay.dialog, ?_, ?_, ?_⟩
  · intro operation hover now
    obtain ⟨overlay, -, hnext⟩ := editor.covers_perform now hover
    exact ⟨overlay, hnext⟩
  · intro hnone now
    rw [saveDialog, hnone]
  · intro dialog hdialog now saved
    obtain ⟨hform, hclosed⟩ : saved.form = editor.form.put dialog.draft ∧ saved.overlay = none :=
      editor.saveDialog_of_dialog hdialog now
    rw [hform]
    exact ⟨hclosed, editor.form.replaces_put dialog.draft, Form.put_eq_self⟩

/-- A draft gets a label, and is saved while its element is in the form and after that was deleted. -/
theorem draft_outlives_its_element :
    let field (label : String) : InputField := ⟨.text, ⟨"a", none, none, none, none⟩, label, none, none, none, none⟩
    let form : Form := ⟨⟨"u", "1", "A"⟩, .builtin, [⟨"s", "S", [.single "r" "c" (.input (field "L"))]⟩]⟩
    let draft : EditDialog := ⟨.input (field "M")⟩
    let opening : List (Operation × Time) := [(.openDialog "a", 1), (.changeDraft (.text "M"), 2)]
    let opened := (start form .standard ⟨5⟩ 0).run opening
    let deleted := (start form .standard ⟨5⟩ 0).run (opening ++ [(.deleteElement "a", 3)])
    (opened.mode = .editor ∧ opened.dialog? = some draft ∧ (opened.saveDialog 3).2.overlay = none ∧
      Form.Replaces draft.draft opened.form (opened.saveDialog 3).2.form) ∧
    deleted.mode = .editor ∧ deleted.dialog? = some draft ∧ (deleted.saveDialog 4).2.form = deleted.form := by
  intro field form draft opening opened deleted
  have hopened : opened.dialog? = some draft := by decide +kernel
  have hdeleted : deleted.dialog? = some draft := by decide +kernel
  have hopen : opened.overlay.isSome := by decide +kernel
  have hopen' : deleted.overlay.isSome := by decide +kernel
  have hgone : ∀ element ∈ deleted.form.elements, element.id ≠ draft.draft.id := by decide +kernel
  obtain ⟨hmode, -, -, -, hsave⟩ := overlay_lives_over_the_form form .standard ⟨5⟩ 0 opening
  obtain ⟨hmode', -, -, -, hsave'⟩ :=
    overlay_lives_over_the_form form .standard ⟨5⟩ 0 (opening ++ [(.deleteElement "a", 3)])
  obtain ⟨hclosed, hreplaces, -⟩ := hsave draft hopened 3
  have hkept := (hsave' draft hdeleted 4).2.2 hgone
  subst opened deleted
  exact ⟨⟨hmode hopen, hopened, hclosed, hreplaces⟩, hmode' hopen', hdeleted, hkept⟩

end Editor

end FormEditor
