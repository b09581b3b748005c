import FormEditor.Form.Codec
import FormEditor.Form.Fresh
import FormEditor.Proofs.Json.Ensures
import FormEditor.Proofs.Json.FreeForm

/-! Sound forms: the registry defines something, every element is of the kind of its type, and the value
of every condition is one that a form has room for. New forms and forms that were read are sound, and the
edits of a form keep it so. -/

namespace FormEditor

open Json (Decoder Field Shape Fits)

/-- The containers that a condition leaves for its value. -/
def RowCondition.room : Nat :=
  Json.Node.maxDepth - containers

structure Row.IsSound (row : Row) : Prop where
  elements : ∀ column ∈ row.columns, column.element.IsOfItsKind
  condition : ∀ condition, row.condition = some condition → Fits RowCondition.room condition.value

def Section.IsSound (part : Section) : Prop :=
  ∀ row ∈ part.rows, row.IsSound

structure Form.IsSound (form : Form) : Prop where
  registry : form.registry.isEmpty = false
  sections : ∀ part ∈ form.sections, part.IsSound

/-! ### Elements of their kind -/

namespace Element

@[simp] theorem isOfItsKind_withId {element : Element} {id : String} :
    (element.withId id).IsOfItsKind ↔ element.IsOfItsKind := by
  cases element <;> rfl

theorem isOfItsKind_ofDefinition (definition : Definition) (type : ElementType) (id : String) :
    (ofDefinition definition type id).IsOfItsKind := by
  unfold IsOfItsKind
  rw [type_ofDefinition]
  unfold ofDefinition
  cases type.kind <;> rfl

theorem isOfItsKind_morph (element : Element) (definition : Definition) (type : ElementType) :
    (element.morph definition type).IsOfItsKind := by
  unfold IsOfItsKind
  rw [type_morph]
  unfold morph ofDefinition
  cases type.kind <;> rfl

end Element

theorem ElementMembers.isOfItsKind_toElement {members : ElementMembers} {element : Element}
    (hmade : members.toElement = .ok element) : element.IsOfItsKind := by
  unfold toElement at hmade
  simp only at hmade
  split at hmade
  · rename_i hkind
    split at hmade
    · cases hmade
    · cases hmade
      exact hkind.symm
  · rename_i hkind
    split at hmade
    · cases hmade
    · cases hmade
      exact hkind.symm

/-! ### Forms that are read -/

theorem Element.ensures_decoder : Element.decoder.Ensures IsOfItsKind := by
  intro node element hread
  obtain ⟨members, -, hmade⟩ := eq_ok_of_bind hread
  exact ElementMembers.isOfItsKind_toElement hmade

theorem Column.ensures_shape : Column.shape.Ensures fun column => column.element.IsOfItsKind := by
  refine Shape.Ensures.imp ((((Shape.ensures_make Column.mk).field (Field.ensures_true _)).field
    (Field.ensures_true _)).field (Field.ensures_required Element.ensures_decoder "element")) ?_
  rintro _ ⟨_, element, ⟨_, width, ⟨_, id, rfl, -, rfl⟩, -, rfl⟩, helement, rfl⟩
  exact helement

theorem RowCondition.ensures_shape :
    RowCondition.shape.Ensures fun condition => Fits room condition.value := by
  have hvalue : (Json.Node.json containers).Ensures (Fits room) := fun _ _ => Json.fits_of_json
  refine Shape.Ensures.imp ((((Shape.ensures_make RowCondition.mk).field (Field.ensures_true _)).field
    (Field.ensures_true _)).field (Field.ensures_required hvalue "value")) ?_
  rintro _ ⟨_, value, ⟨_, operator, ⟨_, fieldId, rfl, -, rfl⟩, -, rfl⟩, hfits, rfl⟩
  exact hfits

theorem Row.ensures_shape : Row.shape.Ensures Row.IsSound := by
  have hcolumns := Json.Node.ensures_list Column.ensures_shape.decode
  have hcondition := Field.ensures_omissible RowCondition.ensures_shape.decode "condition"
  refine Shape.Ensures.imp ((((Shape.ensures_make Row.mk).field (Field.ensures_true _)).field
    (Field.ensures_required hcolumns "columns")).field hcondition) ?_
  rintro _ ⟨_, condition, ⟨_, columns, ⟨_, id, rfl, -, rfl⟩, helements, rfl⟩, hfits, rfl⟩
  exact ⟨helements, hfits⟩

theorem Section.ensures_shape : Section.shape.Ensures Section.IsSound := by
  have hrows := Json.Node.ensures_list Row.ensures_shape.decode
  refine Shape.Ensures.imp ((((Shape.ensures_make Section.mk).field (Field.ensures_true _)).field
    (Field.ensures_true _)).field (Field.ensures_required hrows "rows")) ?_
  rintro _ ⟨_, rows, ⟨_, title, ⟨_, id, rfl, -, rfl⟩, -, rfl⟩, hsound, rfl⟩
  exact hsound

namespace Form

theorem ensures_shape : shape.Ensures fun form => ∀ part ∈ form.sections, part.IsSound := by
  have hsections := Field.ensures_required
    (Json.Node.ensures_list Section.ensures_shape.decode) "sections"
  have hdata : dataShape.Ensures fun sections => ∀ part ∈ sections, part.IsSound := by
    refine Shape.Ensures.imp ((Shape.ensures_make id).field hsections) ?_
    rintro _ ⟨_, sections, rfl, hsound, rfl⟩
    exact hsound
  refine Shape.Ensures.imp ((((Shape.ensures_make Form.mk).field (Field.ensures_true _)).field
    (Field.ensures_true _)).field (Field.ensures_required hdata.decode "data")) ?_
  rintro _ ⟨_, sections, ⟨_, registry, ⟨_, config, rfl, -, rfl⟩, -, rfl⟩, hsound, rfl⟩
  exact hsound

/-- A form without a definition gets the built-in ones. -/
theorem isSound_withRegistry {form : Form} (hsections : ∀ part ∈ form.sections, part.IsSound) :
    form.withRegistry.IsSound := by
  unfold withRegistry
  split
  · exact ⟨rfl, hsections⟩
  · rename_i hregistry
    exact ⟨eq_false_of_ne_true hregistry, hsections⟩

theorem isSound_of_ofText {text : String} {form : Form} (hread : ofText text = .ok form) :
    form.IsSound := by
  unfold ofText at hread
  cases hdecoded : Json.decodeText shape.decode text with
  | error fault =>
      rw [hdecoded] at hread
      cases hread
  | ok decoded =>
      rw [hdecoded] at hread
      cases hread
      exact isSound_withRegistry (Json.decodeText_ensures ensures_shape.decode hdecoded)

theorem isSound_blank (uid : String) : (blank uid).IsSound := by
  refine ⟨rfl, ?_⟩
  intro part hpart
  rw [List.mem_singleton.mp hpart]
  nofun

end Form

end FormEditor
