import FormEditor.Pattern.Standard
import FormEditor.Proofs.Editor.Step
import FormEditor.Proofs.Form.ElementObject

/-! Display blocks and fields. Whether an element is one or the other is kept apart from its type, and the
definition of a type may carry a label, a content or a type that do not belong there. Still the elements of
the form and the draft in the dialog are always of the kind of their type. So each of them is written with
the text member of its kind alone, and is read back. -/

namespace FormEditor

/-- The member of an object that holds the primary text of an element. -/
def ElementKind.textMember : ElementKind → String
  | .display => "content"
  | .field => "label"

namespace Element

theorem IsOfItsKind.kind_eq_display_iff {element : Element} (hkind : element.IsOfItsKind) :
    element.kind = .display ↔ element.type ∈ [.title, .subtitle, .paragraph] := by
  rw [hkind]
  cases element.type <;> decide

/-- An element is written with the text member of its kind, once, and without that of the other kind. -/
theorem filter_textMembers (element : Element) :
    (element.toJson.members.filter fun member => member.1 = "content" || member.1 = "label") =
      [(element.kind.textMember, .string element.primaryText)] := by
  have hoptional : ∀ {α : Type} (name : String) (write : α → Json) (value : Option α),
      ((Json.optional name write value).filter fun member => member.1 = "content" || member.1 = "label") =
        if name = "content" ∨ name = "label" then Json.optional name write value else [] := by
    intro α name write value
    cases value with
    | none => simp [Json.optional]
    | some value => simp [Json.optional, List.filter_cons]
  cases element <;> simp [hoptional, written] <;> rfl

/-- An element of its kind is read back from its text. -/
theorem IsOfItsKind.decodeText_pretty {element : Element} (hkind : element.IsOfItsKind) :
    Json.decodeText decoder element.toJson.pretty = .ok element := by
  rw [Json.decodeText_pretty decoder element.isIntegral_toJson]
  exact decode_toJson hkind

end Element

theorem Form.IsSound.elements {form : Form} (hform : form.IsSound) {element : Element}
    (helement : element ∈ form.elements) : element.IsOfItsKind := by
  obtain ⟨column, hcolumn, rfl⟩ := List.mem_map.mp helement
  obtain ⟨row, hrow, hcolumn⟩ := List.mem_flatMap.mp hcolumn
  obtain ⟨part, hpart, hrow⟩ := List.mem_flatMap.mp hrow
  exact (hform.sections part hpart row hrow).elements column hcolumn

/-! ### The draft -/

theorem DraftEdit.isOfItsKind_apply (edit : DraftEdit) {dialog : EditDialog}
    (hdialog : dialog.draft.IsOfItsKind) : (edit.apply dialog).draft.IsOfItsKind := by
  cases edit with
  | text | subtitle | description | placeholder | options =>
      obtain ⟨draft⟩ := dialog
      cases draft <;> exact hdialog
  | type form type =>
      rw [apply]
      cases hchanged : dialog.changeType form type with
      | error cause => exact hdialog
      | ok changed =>
          rcases EditDialog.changeType_eq_ok hchanged with rfl | ⟨definition, rfl⟩
          · exact hdialog
          · exact Element.isOfItsKind_morph dialog.draft definition type

namespace Editor

variable {editor next : Editor} {opened : Option Element} {drag : Drag} {actions : List Action}

/-- The draft in the dialog is of the kind of its type. -/
def HasDraftOfItsKind (editor : Editor) : Prop :=
  ∀ dialog, editor.dialog? = some dialog → dialog.draft.IsOfItsKind

theorem HasDraftOfItsKind.draft? (hdraft : editor.HasDraftOfItsKind) {element : Element}
    (hopen : editor.draft? = some element) : element.IsOfItsKind := by
  obtain ⟨dialog, hdialog, rfl⟩ := Option.map_eq_some_iff.mp hopen
  exact hdraft dialog hdialog

theorem HasDraftOfItsKind.of_none (hnone : editor.overlay = none) : editor.HasDraftOfItsKind := by
  intro dialog hdialog
  rw [dialog?, hnone] at hdialog
  cases hdialog

/-- A draft starts as an element of the form, and its changes keep it of its kind. -/
theorem Layer.hasDraftOfItsKind (hlayer : editor.Layer opened next.overlay)
    (hform : ∀ element ∈ editor.form.elements, element.IsOfItsKind) (hdraft : editor.HasDraftOfItsKind) :
    next.HasDraftOfItsKind := by
  intro dialog hdialog
  unfold Editor.dialog? at hdialog
  generalize next.overlay = overlay at hlayer hdialog
  cases hlayer with
  | keep => exact hdraft dialog hdialog
  | close | menu => cases hdialog
  | dialog _ hmem =>
      cases hdialog
      exact hform _ hmem
  | draft hopen edit =>
      cases hdialog
      exact edit.isOfItsKind_apply (hdraft _ hopen)

/-! ### Runs -/

/-- The elements of the form and the draft in the dialog are of the kind of their type. -/
structure HasOwnKinds (editor : Editor) : Prop where
  elements : ∀ element ∈ editor.form.elements, element.IsOfItsKind
  draft : editor.HasDraftOfItsKind

/-- Every step keeps the elements and the draft of their kind; a form that is read has no others. -/
theorem HasOwnKinds.step (hkinds : editor.HasOwnKinds) (hstep : editor.Step opened drag actions next) :
    next.HasOwnKinds := by
  refine ⟨?_, hstep.layer.hasDraftOfItsKind hkinds.elements hkinds.draft⟩
  rcases hstep.form with hchange | ⟨-, text, hread⟩
  · exact hchange.isOfItsKind hkinds.elements fun _ hopen => hkinds.draft.draft? hopen
  · exact fun element helement => (Form.isSound_of_ofText hread).elements helement

theorem HasOwnKinds.run [PatternEngine] (steps : List (Operation × Time)) :
    ∀ {editor : Editor}, editor.HasOwnKinds → (editor.run steps).HasOwnKinds := by
  induction steps with
  | nil => exact fun hkinds => hkinds
  | cons step steps ih =>
      exact fun {editor} hkinds => ih (hkinds.step (editor.step_perform step.1 step.2))

/-- **Elements stay of their kind.** If the elements of a form are of the kind of their type, as those of every
form are that is blank or was read, then so are, after any run of an editor that was started on it, those of the
form and the draft in the dialog, whatever a registry defines and whatever forms are read on the way. Such an
element is a display block just if it is a title, a subtitle or a paragraph, and is written with one of a content
and a label, from which it is read back. An object with the members of an element is read as one just if it is
neither a display block with a label that is not null nor a field with a content that is not null. -/
theorem elements_stay_of_their_kind [PatternEngine] {form : Form}
    (hform : ∀ element ∈ form.elements, element.IsOfItsKind)
    (config : EditorConfig) (supply : IdSupply) (started : Time) (steps : List (Operation × Time)) :
    let editor := (start form config supply started).run steps
    (∀ element, element ∈ editor.form.elements ∨ editor.draft? = some element →
      (element.kind = .display ↔ element.type ∈ [.title, .subtitle, .paragraph]) ∧
      (element.toJson.members.filter fun member => member.1 = "content" || member.1 = "label") =
        [(element.kind.textMember, .string element.primaryText)] ∧
      Json.decodeText Element.decoder element.toJson.pretty = .ok element) ∧
    ∀ (members : List (Option String × Json.Node)) (type : ElementType), ElementMembers.AreIn members type →
      ((∃ element, Element.decoder (.object members true) = .ok element) ↔
        ¬(type.kind = .display ∧ Json.HasMember members "label") ∧
          ¬(type.kind = .field ∧ Json.HasMember members "content")) := by
  intro editor
  have hstart : (start form config supply started).HasOwnKinds := ⟨hform, .of_none rfl⟩
  have hkinds := hstart.run steps
  refine ⟨?_, fun members type hobject => hobject.exists_element_iff⟩
  intro element helement
  have hkind : element.IsOfItsKind := helement.elim (hkinds.elements element) hkinds.draft.draft?
  exact ⟨hkind.kind_eq_display_iff, element.filter_textMembers, hkind.decodeText_pretty⟩

/-- A title is defined with a label and a field with a content; one of each is placed, and the draft of the
field becomes a title. The label of an object that is a title is null. -/
theorem mixed_elements_are_of_their_kind :
    let registry := (Registry.empty.insert .title ⟨"c", "i", { type := some .text, label := some "L" }⟩).insert
      .text ⟨"c", "i", { content := some "C" }⟩
    let form : Form := { Form.blank "u" with registry }
    let steps : List (Operation × Time) := [(.dropOnCanvas (.ofType .title), 0),
      (.dropOnCanvas (.ofType .text), 0), (.openDialog (IdSupply.id "text" 3), 0), (.changeDraftType .title, 0)]
    let editor := (start form .standard ⟨0⟩ 0).run steps
    let members : List (Option String × Json.Node) := [(some "id", .string (some "e")),
      (some "type", .string (some "title")), (some "label", .null), (some "note", .array [] true)]
    editor.form.elements.map (·.kind) = [.display, .field] ∧ editor.draft?.map (·.kind) = some .display ∧
      (∀ element ∈ editor.form.elements, Json.decodeText Element.decoder element.toJson.pretty = .ok element) ∧
      ∃ element, Element.decoder (.object members true) = .ok element := by
  intro registry form steps editor members
  have hform : ∀ element ∈ form.elements, element.IsOfItsKind := by decide +kernel
  have hobject : ElementMembers.AreIn members .title :=
    { sound := by decide
      once := by decide
      id := ⟨"e", by simp [members]⟩
      type := ⟨.string (some "title"), by simp [members], rfl⟩
      texts := by simp [members, ElementMembers.textNames]
      options := by simp [members]
      validation := by simp [members] }
  obtain ⟨hkinds, hread⟩ := elements_stay_of_their_kind hform .standard ⟨0⟩ 0 steps
  refine ⟨by decide +kernel, by decide +kernel, fun element helement => (hkinds element (.inl helement)).2.2, ?_⟩
  refine (hread members .title hobject).mpr ⟨?_, ?_⟩
  · rintro ⟨-, node, hnode, hvalue⟩
    exact hvalue (by simpa [members] using hnode)
  · rintro ⟨hkind, -⟩
    cases hkind

end Editor

end FormEditor
