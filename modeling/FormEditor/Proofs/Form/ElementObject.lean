import FormEditor.Proofs.Form.RoundTrip

/-! Which objects are elements. An object that names every member of an element at most once, with values of
the right types, is read as one member after the other, whatever else stands in it. It is an element unless
it carries the text member of the other kind. -/

namespace FormEditor

open Json (Decoder Field Shape Node)

namespace Json

variable {α : Type} {members : List (Option String × Node)} {name : String}

/-- An object has a member of a name, and its value is not null. -/
def HasMember (members : List (Option String × Node)) (name : String) : Prop :=
  ∃ node, (some name, node) ∈ members ∧ node ≠ .null

/-- A name that an object has at most once leads to no value or to one. -/
theorem occurrences_cases (honce : members.countP (·.1 = some name) ≤ 1) :
    (occurrences name 0 members = [] ∧ ∀ node, (some name, node) ∉ members) ∨
    ∃ place found, occurrences name 0 members = [(place, found)] ∧
      ∀ node, (some name, node) ∈ members ↔ node = found := by
  have hsame := map_occurrences name members 0
  have hlength : (occurrences name 0 members).length ≤ 1 := by
    rw [List.countP_eq_length_filter, ← List.length_map (·.2), ← hsame, List.length_map] at honce
    exact honce
  have hmem : ∀ node, node ∈ (occurrences name 0 members).map (·.2) ↔ (some name, node) ∈ members := by
    intro node
    rw [hsame]
    simp
  cases hfound : occurrences name 0 members with
  | nil =>
      rw [hfound] at hmem
      exact Or.inl ⟨rfl, fun node hnode => List.not_mem_nil ((hmem node).mpr hnode)⟩
  | cons first others =>
      rw [hfound, List.length_cons] at hlength
      have hothers : others = [] := List.eq_nil_of_length_eq_zero (by omega)
      rw [hfound, hothers] at hmem
      refine Or.inr ⟨first.1, first.2, by rw [hothers], fun node => ?_⟩
      rw [← hmem node, List.map_singleton, List.mem_singleton]

theorem Field.ofMembers_required {decoder : Decoder α} {value : α} {node : Node}
    (honce : members.countP (·.1 = some name) ≤ 1) (hnode : (some name, node) ∈ members)
    (hread : decoder node = .ok value) : (Field.required name decoder).ofMembers members = .ok value := by
  rcases occurrences_cases honce with ⟨-, hnone⟩ | ⟨place, found, hfound, hmem⟩
  · exact absurd hnode (hnone node)
  · cases (hmem node).mp hnode
    simp only [Field.required, Field.ofMembers, hfound, hread]
    rfl

/-- A member that may be left out is read as a value if it is there and not null. -/
theorem Field.exists_ofMembers_omissible {decoder : Decoder α} (honce : members.countP (·.1 = some name) ≤ 1)
    (htyped : ∀ node, (some name, node) ∈ members → node = .null ∨ ∃ value, decoder node = .ok value) :
    ∃ value, (Field.omissible name decoder).ofMembers members = .ok value ∧
      (value.isSome ↔ HasMember members name) := by
  rcases occurrences_cases honce with ⟨hnone, habsent⟩ | ⟨place, found, hfound, hmem⟩
  · refine ⟨none, ?_, ⟨fun hsome => absurd hsome Bool.false_ne_true, ?_⟩⟩
    · simp only [Field.omissible, Field.defaulted, Field.ofMembers, hnone]
      rfl
    · rintro ⟨node, hnode, -⟩
      exact absurd hnode (habsent node)
  · have hhas : HasMember members name ↔ found ≠ .null := by
      refine ⟨?_, fun hvalue => ⟨found, (hmem found).mpr rfl, hvalue⟩⟩
      rintro ⟨node, hnode, hvalue⟩
      exact (hmem node).mp hnode ▸ hvalue
    rw [hhas]
    by_cases hnull : found = .null
    · refine ⟨none, ?_, ⟨fun hsome => absurd hsome Bool.false_ne_true, fun hvalue => absurd hnull hvalue⟩⟩
      simp only [Field.omissible, Field.defaulted, Field.ofMembers, hfound, hnull]
      rfl
    · obtain hsame | ⟨value, hread⟩ := htyped found ((hmem found).mpr rfl)
      · exact absurd hsame hnull
      · have hnullable := Node.nullable_of_ne_null hnull hread
        refine ⟨some value, ?_, ⟨fun _ => hnull, fun _ => rfl⟩⟩
        simp only [Field.omissible, Field.defaulted, Field.ofMembers, hfound, hnullable]
        rfl

/-- A member that may be left out has a value exactly if it is there and not null. -/
theorem Field.isSome_iff_hasMember {decoder : Decoder α} {value : Option α}
    (hread : (Field.omissible name decoder).ofMembers members = .ok value) :
    value.isSome ↔ HasMember members name := by
  have hmem : ∀ node, node ∈ (occurrences name 0 members).map (·.2) ↔ (some name, node) ∈ members := by
    intro node
    rw [map_occurrences]
    simp
  simp only [Field.omissible, Field.defaulted, Field.ofMembers] at hread
  unfold HasMember
  cases hfound : occurrences name 0 members with
  | nil =>
      rw [hfound] at hread hmem
      cases hread
      refine iff_of_false Bool.false_ne_true ?_
      rintro ⟨node, hnode, -⟩
      exact List.not_mem_nil ((hmem node).mpr hnode)
  | cons first again =>
      obtain ⟨place, found⟩ := first
      rw [hfound] at hread hmem
      simp only at hread
      split at hread
      · cases hread
      · rename_i hnullable
        cases hread
        rw [Node.isSome_of_nullable hnullable]
        simp only [List.map_cons, List.map_nil, List.mem_singleton] at hmem
        refine ⟨fun hother => ⟨found, (hmem found).mp rfl, hother⟩, ?_⟩
        rintro ⟨node, hnode, hother⟩
        exact (hmem node).mpr hnode ▸ hother
      · cases hread

end Json

namespace ElementMembers

/-- The optional members that are texts. -/
def textNames : List String :=
  ["label", "content", "placeholder", "mask", "subtitle", "description", "photo", "icon"]

/-- An object has an id, a known type and, as far as they are there, optional members of their types. It names
none of them twice. Members of other names may hold any value. -/
structure AreIn (members : List (Option String × Node)) (type : ElementType) : Prop where
  sound : ∀ member ∈ members, member.1.isSome ∧ member.2.intact
  once : ∀ name ∈ shape.names, members.countP (·.1 = some name) ≤ 1
  id : ∃ id, (some "id", .string (some id)) ∈ members
  type : ∃ node, (some "type", node) ∈ members ∧ ElementType.decoder node = .ok type
  texts : ∀ name ∈ textNames, ∀ node, (some name, node) ∈ members →
    node = .null ∨ ∃ text, node = .string (some text)
  options : ∀ node, (some "options", node) ∈ members →
    node = .null ∨ ∃ texts, node = (Json.ofTexts texts).toNode
  validation : ∀ node, (some "validation", node) ∈ members →
    node = .null ∨ ∃ validation, Validation.shape.decode node = .ok validation

variable {members : List (Option String × Node)} {type : ElementType}

theorem AreIn.exists_text (hobject : AreIn members type) (name : String) (hname : name ∈ textNames)
    (hknown : name ∈ shape.names) :
    ∃ value, (Field.omissible name Node.text).ofMembers members = .ok value ∧
      (value.isSome ↔ Json.HasMember members name) := by
  refine Field.exists_ofMembers_omissible (hobject.once name hknown) fun node hnode => ?_
  refine (hobject.texts name hname node hnode).imp_right ?_
  rintro ⟨text, rfl⟩
  exact ⟨text, rfl⟩

/-- Such an object is read, and the two text members are what they are in it. -/
theorem AreIn.exists_decode (hobject : AreIn members type) :
    ∃ read, shape.decode (.object members true) = .ok read ∧ read.type = type ∧
      (read.label.isSome ↔ Json.HasMember members "label") ∧
      (read.content.isSome ↔ Json.HasMember members "content") := by
  obtain ⟨id, hid⟩ := hobject.id
  obtain ⟨node, hnode, htype⟩ := hobject.type
  have hid : (Field.required "id" Node.text).ofMembers members = .ok id :=
    Field.ofMembers_required (hobject.once _ (by decide)) hid rfl
  have htype : (Field.required "type" ElementType.decoder).ofMembers members = .ok type :=
    Field.ofMembers_required (hobject.once _ (by decide)) hnode htype
  obtain ⟨label, hlabel, hhasLabel⟩ := hobject.exists_text "label" (by decide) (by decide)
  obtain ⟨content, hcontent, hhasContent⟩ := hobject.exists_text "content" (by decide) (by decide)
  obtain ⟨placeholder, hplaceholder, -⟩ := hobject.exists_text "placeholder" (by decide) (by decide)
  obtain ⟨options, hoptions, -⟩ : ∃ value,
      (Field.omissible "options" (Node.list Node.text)).ofMembers members = .ok value ∧ _ := by
    refine Field.exists_ofMembers_omissible (hobject.once _ (by decide)) fun node hnode => ?_
    refine (hobject.options node hnode).imp_right ?_
    rintro ⟨texts, rfl⟩
    exact ⟨texts, Json.list_ofTexts texts⟩
  obtain ⟨mask, hmask, -⟩ := hobject.exists_text "mask" (by decide) (by decide)
  obtain ⟨validation, hvalidation, -⟩ :=
    Field.exists_ofMembers_omissible (hobject.once "validation" (by decide)) hobject.validation
  obtain ⟨subtitle, hsubtitle, -⟩ := hobject.exists_text "subtitle" (by decide) (by decide)
  obtain ⟨description, hdescription, -⟩ := hobject.exists_text "description" (by decide) (by decide)
  obtain ⟨photo, hphoto, -⟩ := hobject.exists_text "photo" (by decide) (by decide)
  obtain ⟨icon, hicon, -⟩ := hobject.exists_text "icon" (by decide) (by decide)
  have hmake : (Shape.make ElementMembers.mk).ofMembers members = .ok ElementMembers.mk := rfl
  have hread : shape.ofMembers members = .ok ⟨id, type, label, content, placeholder, options, mask, validation,
      subtitle, description, photo, icon⟩ :=
    Shape.ofMembers_field (Shape.ofMembers_field (Shape.ofMembers_field (Shape.ofMembers_field
      (Shape.ofMembers_field (Shape.ofMembers_field (Shape.ofMembers_field (Shape.ofMembers_field
        (Shape.ofMembers_field (Shape.ofMembers_field (Shape.ofMembers_field (Shape.ofMembers_field hmake
          hid) htype) hlabel) hcontent) hplaceholder) hoptions) hmask) hvalidation) hsubtitle)
          hdescription) hphoto) hicon
  exact ⟨_, Shape.decode_object hread hobject.sound, rfl, hhasLabel, hhasContent⟩

/-- Members make an element unless one of them is the text member of the other kind. -/
theorem exists_toElement_iff (members : ElementMembers) :
    (∃ element, members.toElement = .ok element) ↔
      ¬(members.type.kind = .display ∧ members.label.isSome) ∧
        ¬(members.type.kind = .field ∧ members.content.isSome) := by
  unfold toElement
  cases hkind : members.type.kind with
  | display =>
      cases hlabel : members.label.isSome with
      | true => simp [throw, throwThe, MonadExceptOf.throw]
      | false => simp [pure, Except.pure]
  | field =>
      cases hcontent : members.content.isSome with
      | true => simp [throw, throwThe, MonadExceptOf.throw]
      | false => simp [pure, Except.pure]

/-- An object with the members of an element is one, unless it mixes the kinds. -/
theorem AreIn.exists_element_iff (hobject : AreIn members type) :
    (∃ element, Element.decoder (.object members true) = .ok element) ↔
      ¬(type.kind = .display ∧ Json.HasMember members "label") ∧
        ¬(type.kind = .field ∧ Json.HasMember members "content") := by
  obtain ⟨read, hread, rfl, hlabel, hcontent⟩ := hobject.exists_decode
  rw [← hlabel, ← hcontent, ← exists_toElement_iff read, Element.decoder, hread]
  rfl

end ElementMembers

end FormEditor
