import FormEditor.Proofs.Editor.Operation
import FormEditor.Proofs.Form.Morphing

/-! The two ways to change the type of an element, in its place in the form and in the dialog. Both take the first
element of the id, make of it what the registry has for the new type, and put that in the place of all elements
of the id. They differ in one case. The dialog takes the type that the element already has for no change at
all, while in place the element takes its own type anew and loses what its definition does not give. -/

namespace FormEditor

/-- The draft of a dialog in which a type that has a definition is chosen. -/
def EditDialog.draftAs (dialog : EditDialog) (definition : Definition) (type : ElementType) : Element :=
  if type = dialog.draft.type then dialog.draft else dialog.draft.morph definition type

namespace EditDialog

variable {dialog : EditDialog} {form : Form} {definition : Definition} {type : ElementType}

theorem changeType_of_defined (hdefined : form.registry.get? type = some definition) :
    dialog.changeType form type = .ok ⟨dialog.draftAs definition type⟩ := by
  unfold changeType draftAs
  by_cases hsame : type = dialog.draft.type
  · rw [if_pos hsame, if_pos hsame]
    rfl
  · rw [if_neg hsame, if_neg hsame, Form.morph_of_defined hdefined]
    rfl

theorem id_draftAs (dialog : EditDialog) (definition : Definition) (type : ElementType) :
    (dialog.draftAs definition type).id = dialog.draft.id := by
  unfold draftAs
  split
  · rfl
  · exact Element.id_morph dialog.draft definition type

end EditDialog

namespace Editor

variable {editor : Editor} {elementId : String} {element : Element} {definition : Definition} {type : ElementType}

theorem openDialog_of_found (hmode : editor.mode = .editor)
    (hfound : editor.form.findElement elementId = some element) :
    editor.openDialog elementId =
      (some .overlayChanged, { editor with overlay := some (.dialog ⟨element⟩) }) := by
  rw [openDialog, hmode, hfound]

theorem changeDraftType_of_defined {dialog : EditDialog} (hdialog : editor.dialog? = some dialog)
    (hdefined : editor.form.registry.get? type = some definition) :
    editor.changeDraftType type =
      (.ok (some .overlayChanged), { editor with overlay := some (.dialog ⟨dialog.draftAs definition type⟩) }) := by
  rw [changeDraftType, hdialog]
  simp only
  rw [EditDialog.changeType_of_defined hdefined]

theorem saveDialog_of_isSome {dialog : EditDialog} (hdialog : editor.dialog? = some dialog)
    (hthere : (editor.form.findElement dialog.draft.id).isSome) (now : Time) :
    editor.saveDialog now =
      ([.overlayChanged, .elementUpdated dialog.draft.id],
        { editor with overlay := none }.changeForm (editor.form.put dialog.draft) now) := by
  rw [saveDialog, hdialog]
  simp only
  rw [Form.updateElement_of_isSome hthere]
  rfl

theorem morphElement_of_defined (hfound : editor.form.findElement elementId = some element)
    (hdefined : editor.form.registry.get? type = some definition) (now : Time) :
    editor.morphElement elementId type now =
      (.ok [.elementUpdated elementId], editor.changeForm (editor.form.put (element.morph definition type)) now) := by
  have hmorphed : editor.form.morphElement elementId type =
      .ok (editor.form.put (element.morph definition type)) := by
    rw [Form.morphElement_of_some hfound, Registry.get, hdefined]
    rfl
  rw [morphElement, hmorphed]
  rfl

/-- What is left behind when the dialog of an element is opened, a type is chosen in it, and it is saved. -/
def retypedInDialog (editor : Editor) (elementId : String) (type : ElementType) (now : Time) : Editor :=
  (((editor.openDialog elementId).2.changeDraftType type).2.saveDialog now).2

theorem retypedInDialog_eq (hmode : editor.mode = .editor)
    (hfound : editor.form.findElement elementId = some element)
    (hdefined : editor.form.registry.get? type = some definition) (now : Time) :
    editor.retypedInDialog elementId type now =
      { editor with overlay := none }.changeForm (editor.form.put ((EditDialog.mk element).draftAs definition type))
        now := by
  let opened : Editor := { editor with overlay := some (.dialog ⟨element⟩) }
  let chosen : Editor :=
    { opened with overlay := some (.dialog ⟨(EditDialog.mk element).draftAs definition type⟩) }
  have hthere : (editor.form.findElement ((EditDialog.mk element).draftAs definition type).id).isSome := by
    have hid : element.id = elementId := by simpa using List.find?_some hfound
    rw [EditDialog.id_draftAs, hid, hfound]
    rfl
  calc editor.retypedInDialog elementId type now
      = ((opened.changeDraftType type).2.saveDialog now).2 := by
        rw [retypedInDialog, openDialog_of_found hmode hfound]
    _ = (chosen.saveDialog now).2 := by rw [@changeDraftType_of_defined opened definition type ⟨element⟩ rfl hdefined]
    _ = _ := by rw [@saveDialog_of_isSome chosen ⟨_⟩ rfl hthere now]

/-- **A dialog changes the type of an element as a change in place does, except to the type that it has.** Let the
form be built, an element be there, and a type have a definition. To open the dialog of the element, choose
the type and save makes the same form as the change of the type in place if and only if the type is another one
than the element has, or the element already is what the registry makes of it. With another type the two
differ in nothing but the overlay, which the dialog closes. With its own type the dialog leaves an element as
it is, and the form too unless other elements have the same id. -/
theorem dialog_retypes_as_in_place_iff (editor : Editor) {elementId : String} {type : ElementType}
    {element : Element} {definition : Definition} (hmode : editor.mode = .editor)
    (hfound : editor.form.findElement elementId = some element)
    (hdefined : editor.form.registry.get? type = some definition) (now : Time) :
    let inDialog := editor.retypedInDialog elementId type now
    let inPlace := (editor.morphElement elementId type now).2
    (inDialog.form = inPlace.form ↔ type ≠ element.type ∨ element.Becomes definition type element) ∧
    (type ≠ element.type → inDialog = { inPlace with overlay := none }) ∧
    (type = element.type → inDialog.form.findElement elementId = some element ∧
      ((∀ other ∈ editor.form.elements, other.id = elementId → other = element) →
        inDialog.form = editor.form)) := by
  intro inDialog inPlace
  have hid : element.id = elementId := by simpa using List.find?_some hfound
  have hthere : (editor.form.findElement element.id).isSome := by
    rw [hid, hfound]
    rfl
  have hplace : inPlace = editor.changeForm (editor.form.put (element.morph definition type)) now :=
    congrArg Prod.snd (morphElement_of_defined hfound hdefined now)
  have hdialog := retypedInDialog_eq hmode hfound hdefined now
  change inDialog = _ at hdialog
  by_cases hsame : type = element.type
  · have hdraft : (EditDialog.mk element).draftAs definition type = element := if_pos hsame
    rw [hdraft] at hdialog
    have hform : inDialog.form = editor.form.put element := congrArg (·.form) hdialog
    have hiff : inDialog.form = inPlace.form ↔ element = element.morph definition type := by
      rw [hform, hplace]
      apply Form.put_inj
      · exact (Element.id_morph element definition type).symm
      · rw [Element.id_morph]
        exact hthere
    refine ⟨?_, fun hother => absurd hsame hother, fun _ => ⟨?_, ?_⟩⟩
    · rw [hiff, Element.becomes_iff]
      exact ⟨Or.inr, fun hcases => hcases.resolve_left fun hother => hother hsame⟩
    · rw [hform, ← hid]
      exact Form.findElement_put hthere
    · intro halone
      rw [hform]
      apply Form.mapElements_eq_self
      intro other hother
      split
      · rename_i hshared
        exact (halone other hother (hshared.trans hid)).symm
      · rfl
  · have hdraft : (EditDialog.mk element).draftAs definition type = element.morph definition type := if_neg hsame
    rw [hdraft] at hdialog
    refine ⟨?_, fun _ => ?_, fun hown => absurd hown hsame⟩
    · rw [hdialog, hplace]
      exact iff_of_true rfl (Or.inl hsame)
    · rw [hdialog, hplace]
      rfl

/-- A field with a validation becomes a title in its dialog. -/
theorem field_retyped_in_dialog :
    let field : Element :=
      .input ⟨.text, ⟨"a", some "S", none, none, some "I"⟩, "L", some "mine", none, none, some ⟨"x", "m"⟩⟩
    let form : Form := { Form.blank "u" with sections := [⟨"s", "S", [.single "r" "c" field]⟩] }
    let editor := start form .standard ⟨0⟩ 0
    editor.mode = .editor ∧ editor.form.findElement "a" = some field ∧
    editor.form.registry.get? .title = some (Registry.builtinDefinition .title) ∧
    (editor.retypedInDialog "a" .title 0).form = (editor.morphElement "a" .title 0).2.form := by
  intro field form editor
  have hmode : editor.mode = .editor := rfl
  have hfound : editor.form.findElement "a" = some field := by decide +kernel
  have hdefined : editor.form.registry.get? .title = some (Registry.builtinDefinition .title) := by decide +kernel
  obtain ⟨hiff, -, -⟩ := dialog_retypes_as_in_place_iff editor hmode hfound hdefined 0
  exact ⟨hmode, hfound, hdefined, hiff.mpr (Or.inl (by decide))⟩

/-- **The type that an element has is no change in its dialog.** A field with a placeholder of its own keeps it in
the dialog if its own type is chosen, and takes that of the registry if it takes its own type in place. -/
theorem own_type_kept_in_dialog :
    let field (placeholder : String) : Element :=
      .input ⟨.text, ⟨"a", none, none, none, none⟩, "L", some placeholder, none, none, none⟩
    let form (placeholder : String) : Form :=
      { Form.blank "u" with sections := [⟨"s", "S", [.single "r" "c" (field placeholder)]⟩] }
    let editor := start (form "mine") .standard ⟨0⟩ 0
    editor.mode = .editor ∧ editor.form.findElement "a" = some (field "mine") ∧
    (editor.form.registry.get? .text).isSome ∧
    (editor.retypedInDialog "a" .text 0).form = form "mine" ∧
    (editor.morphElement "a" .text 0).2.form = form "Enter text" ∧
    (editor.retypedInDialog "a" .text 0).form ≠ (editor.morphElement "a" .text 0).2.form := by
  intro field form editor
  exact ⟨rfl, by decide +kernel, by decide +kernel, by decide +kernel, by decide +kernel, by decide +kernel⟩

end Editor

end FormEditor
