import FormEditor.Proofs.Form.ElementObject
import FormEditor.Proofs.Form.Morphing

/-! What elements take from the registry. A new element has everything from the definition of its type, its
text too. An element that changes its type brings its own text along, whatever it is. An element that was read
without a text has the empty one, and brings that along as well, so it does not come to the text that the
definition has for it. -/

namespace FormEditor

open Json (Field HasMember Node Shape)

/-- The text of a new element of a type. -/
def Definition.defaultText (definition : Definition) (type : ElementType) : String :=
  match type.kind with
  | .display => definition.defaultProps.content.getD ""
  | .field => definition.defaultProps.label.getD ""

namespace ElementMembers

/-- An element is written without a text. -/
structure LackText (members : ElementMembers) : Prop where
  label : members.label = none
  content : members.content = none

variable {read : ElementMembers} {element : Element}

/-- An object lacks a text if it has neither of the two members for one, or has null for them. -/
theorem lackText_iff {members : List (Option String × Node)} {closed : Bool}
    (hread : shape.decode (.object members closed) = .ok read) :
    read.LackText ↔ ¬HasMember members "label" ∧ ¬HasMember members "content" := by
  revert read
  suffices hfields : ∀ read, shape.ofMembers members = .ok read →
      (read.LackText ↔ ¬HasMember members "label" ∧ ¬HasMember members "content") from
    fun _ hread => hfields _ (Shape.ofMembers_of_decode hread)
  -- only the two fields of the texts matter, the third and the fourth
  simp only [shape, Shape.forall_ofMembers_field, Shape.forall_ofMembers_make]
  intro id _ type _ label hlabel content hcontent
  intros
  rw [← Field.isSome_iff_hasMember hlabel, ← Field.isSome_iff_hasMember hcontent, Option.not_isSome_iff_eq_none,
    Option.not_isSome_iff_eq_none]
  exact ⟨fun hlack => ⟨hlack.label, hlack.content⟩, fun hnone => ⟨hnone.1, hnone.2⟩⟩

theorem LackText.primaryText (hlack : read.LackText) (hmade : read.toElement = .ok element) :
    element.primaryText = "" := by
  unfold toElement at hmade
  rw [hlack.label, hlack.content] at hmade
  cases hkind : read.type.kind with
  | display =>
      rw [hkind] at hmade
      cases hmade
      rfl
  | field =>
      rw [hkind] at hmade
      cases hmade
      rfl

end ElementMembers

namespace Element

/-- A new element: all it has but its id is from the definition of its type. -/
structure HasDefaults (element : Element) (definition : Definition) (type : ElementType) : Prop where
  kind : element.kind = type.kind
  text : element.primaryText = definition.defaultText type
  type : element.type = type
  base : element.base =
    { id := element.id, subtitle := definition.defaultProps.subtitle
      description := definition.defaultProps.description, photo := definition.defaultProps.photo
      icon := definition.defaultProps.icon }
  field : ∀ field, element.field? = some field →
    field.placeholder = definition.defaultProps.placeholder ∧ field.options = definition.defaultProps.options ∧
      field.mask = definition.defaultProps.mask ∧ field.validation = definition.defaultProps.validation

/-- The text of one element has become that of another one, as its label or its content. -/
inductive TextMoves : Element → Element → Prop where
  | labelToLabel {old new : InputField} (htext : new.label = old.label) : TextMoves (.input old) (.input new)
  | contentToContent {old new : DisplayBlock} (htext : new.content = old.content) :
      TextMoves (.display old) (.display new)
  | labelToContent {old : InputField} {new : DisplayBlock} (htext : new.content = old.label) :
      TextMoves (.input old) (.display new)
  | contentToLabel {old : DisplayBlock} {new : InputField} (htext : new.label = old.content) :
      TextMoves (.display old) (.input new)

/-- What a change of the type is to do with the text of an element. Where nothing is written that could be moved,
the text is to be the one that the definition has. -/
structure KeepsDefaultText (members : ElementMembers) (definition : Definition) (type : ElementType)
    (old new : Element) : Prop where
  unwritten : members.LackText → new.primaryText = definition.defaultText type
  written : old.primaryText ≠ "" → old.TextMoves new

theorem primaryText_ofDefinition (definition : Definition) (type : ElementType) (id : String) :
    (ofDefinition definition type id).primaryText = definition.defaultText type := by
  unfold ofDefinition Definition.defaultText
  cases type.kind <;> rfl

theorem base_ofDefinition (definition : Definition) (type : ElementType) (id : String) :
    (ofDefinition definition type id).base =
      { id, subtitle := definition.defaultProps.subtitle, description := definition.defaultProps.description
        photo := definition.defaultProps.photo, icon := definition.defaultProps.icon } := by
  unfold ofDefinition
  cases type.kind <;> rfl

theorem hasDefaults_ofDefinition (definition : Definition) (type : ElementType) (id : String) :
    (ofDefinition definition type id).HasDefaults definition type where
  kind := by
    rw [isOfItsKind_ofDefinition definition type id, type_ofDefinition]
  text := primaryText_ofDefinition definition type id
  type := type_ofDefinition definition type id
  base := by rw [base_ofDefinition, id_ofDefinition]
  field := by
    unfold ofDefinition
    cases type.kind with
    | display =>
        intro field hnone
        cases hnone
    | field =>
        rintro field ⟨rfl⟩
        exact ⟨rfl, rfl, rfl, rfl⟩

theorem textMoves_iff {old new : Element} : old.TextMoves new ↔ new.primaryText = old.primaryText := by
  refine ⟨fun hmoves => ?_, fun htext => ?_⟩
  · cases hmoves <;> assumption
  · cases old <;> cases new
    · exact .contentToContent htext
    · exact .contentToLabel htext
    · exact .labelToContent htext
    · exact .labelToLabel htext

/-- The text that is moved hides the one of the definition, so it shows only if both are empty. -/
theorem keepsDefaultText_morph_iff {members : ElementMembers} {element : Element}
    (hmade : members.toElement = .ok element) (definition : Definition) (type : ElementType) :
    KeepsDefaultText members definition type element (element.morph definition type) ↔
      (members.LackText → definition.defaultText type = "") := by
  have htext := (element.becomes_morph definition type).text
  refine ⟨fun hkeeps hlack => ?_, fun hempty => ⟨fun hlack => ?_, fun _ => textMoves_iff.mpr htext⟩⟩
  · rw [← hkeeps.unwritten hlack, htext, hlack.primaryText hmade]
  · rw [htext, hlack.primaryText hmade, hempty hlack]

end Element

namespace Form

/-- **The text of the registry is kept only where it is empty.** Let an element be read from some members, and a type
have a definition. As that type it is of the kind of the type and has the text it had before, in all four ways
from a label or content to a label or content. So a text that is not empty is carried along as it
should be. But where neither a label nor a content is written (an object has no such member, or null for it), the
text of the definition is there afterwards if and only if it is empty itself. -/
theorem default_text_kept_iff (form : Form) {node : Node} {members : ElementMembers} {element : Element}
    {definition : Definition} {type : ElementType} (hread : ElementMembers.shape.decode node = .ok members)
    (hmade : members.toElement = .ok element) (hdefined : form.registry.get? type = some definition) :
    (∀ object closed, node = .object object closed →
      (members.LackText ↔ ¬HasMember object "label" ∧ ¬HasMember object "content")) ∧
    ∃ morphed, form.morph element type = .ok morphed ∧ morphed.kind = type.kind ∧ element.TextMoves morphed ∧
      (Element.KeepsDefaultText members definition type element morphed ↔
        (members.LackText → definition.defaultText type = "")) := by
  have hbecomes := element.becomes_morph definition type
  refine ⟨?_, element.morph definition type, morph_of_defined hdefined element, hbecomes.kind, ?_, ?_⟩
  · rintro object closed rfl
    exact ElementMembers.lackText_iff hread
  · exact Element.textMoves_iff.mpr hbecomes.text
  · exact Element.keepsDefaultText_morph_iff hmade definition type

/-- A title with a content becomes a choice, which is called what the title said. -/
theorem written_text_carried :
    let node : Node := .object [(some "id", .string (some "a")), (some "type", .string (some "title")),
      (some "content", .string (some "Welcome"))] true
    let members : ElementMembers :=
      ⟨"a", .title, none, some "Welcome", none, none, none, none, none, none, none, none⟩
    let element : Element := .display ⟨.title, ⟨"a", none, none, none, none⟩, "Welcome"⟩
    let definition := Registry.builtinDefinition .select
    ElementMembers.shape.decode node = .ok members ∧ members.toElement = .ok element ∧
    (blank "u").registry.get? .select = some definition ∧
    ∃ morphed, (blank "u").morph element .select = .ok morphed ∧ morphed.primaryText = "Welcome" ∧
      Element.KeepsDefaultText members definition .select element morphed := by
  intro node members element definition
  have hread : ElementMembers.shape.decode node = .ok members := by decide +kernel
  have hmade : members.toElement = .ok element := by decide +kernel
  have hdefined : (blank "u").registry.get? .select = some definition := by decide +kernel
  obtain ⟨-, morphed, hmorphed, -, hmoves, hkeeps⟩ := default_text_kept_iff (blank "u") hread hmade hdefined
  refine ⟨hread, hmade, hdefined, morphed, hmorphed, Element.textMoves_iff.mp hmoves, hkeeps.mpr fun hlack => ?_⟩
  cases hlack.content

/-- **An element without a text loses the default one.** A field that is read without a label becomes a choice without
one, though the registry would call it "Select". -/
theorem default_text_lost :
    let node : Node := .object [(some "id", .string (some "a")), (some "type", .string (some "text"))] true
    let members : ElementMembers :=
      ⟨"a", .text, none, none, none, none, none, none, none, none, none, none⟩
    let element : Element := .input ⟨.text, ⟨"a", none, none, none, none⟩, "", none, none, none, none⟩
    let morphed : Element :=
      .input ⟨.select, ⟨"a", none, none, none, none⟩, "", none, some ["Option 1", "Option 2", "Option 3"], none, none⟩
    let definition := Registry.builtinDefinition .select
    ElementMembers.shape.decode node = .ok members ∧ members.toElement = .ok element ∧ members.LackText ∧
    (blank "u").registry.get? .select = some definition ∧ (blank "u").morph element .select = .ok morphed ∧
    definition.defaultText .select = "Select" ∧
    ¬Element.KeepsDefaultText members definition .select element morphed := by
  intro node members element morphed definition
  have hlack : members.LackText := ⟨rfl, rfl⟩
  have hdefault : definition.defaultText .select = "Select" := rfl
  refine ⟨by decide +kernel, by decide +kernel, hlack, by decide +kernel, by decide +kernel, hdefault, ?_⟩
  intro hkeeps
  have htext : "" = "Select" := (hkeeps.unwritten hlack).trans hdefault
  exact absurd htext (by decide)

end Form

end FormEditor
