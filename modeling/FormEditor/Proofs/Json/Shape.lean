import FormEditor.Proofs.Json.FreeForm
import FormEditor.Proofs.Result

/-! Structures that are read back from the objects they are written as. A field reads its value if the
object has one member of its name, which the decoder takes, or none where that has a meaning; a shape
reads its structure if all its fields read theirs. Nothing else stands in the way, since every member of
a written object has a name and a sound value. -/

namespace FormEditor.Json

variable {α β : Type}

/-- The members of an object. -/
def members : Json → List (String × Json)
  | .object members => members
  | _ => []

/-- The nodes that a field finds are those of its name. -/
theorem map_occurrences (name : String) (members : List (Option String × Node)) :
    ∀ place, (occurrences name place members).map (·.2) = (members.filter (·.1 = some name)).map (·.2) := by
  induction members with
  | nil => exact fun _ => rfl
  | cons member members ih =>
      intro place
      by_cases hname : member.1 = some name
      · rw [occurrences, if_pos hname, List.map_cons, ih, List.filter_cons_of_pos (by simpa using hname),
          List.map_cons]
      · rw [occurrences, if_neg hname, ih, List.filter_cons_of_neg (by simpa using hname)]

theorem memberNodes_eq_map (members : List (String × Json)) :
    memberNodes members = members.map fun member => (some member.1, member.2.toNode) := by
  induction members with
  | nil => rfl
  | cons member members ih => rw [memberNodes, ih, List.map_cons]

theorem map_occurrences_memberNodes (name : String) (members : List (String × Json)) (place : Nat) :
    (occurrences name place (memberNodes members)).map (·.2) =
      (members.filter (·.1 = name)).map (·.2.toNode) := by
  rw [map_occurrences, memberNodes_eq_map, List.filter_map, List.map_map]
  simp [Function.comp_def]

@[simp] theorem filter_optional (name other : String) (write : α → Json) (value : Option α) :
    (optional other write value).filter (·.1 = name) =
      if other = name then optional other write value else [] := by
  cases value with
  | none => simp [optional]
  | some value => simp [optional, List.filter_cons]

/-! ### Fields -/

/-- A field reads a value from a written object. -/
def Field.Reads (field : Field α) (members : List (String × Json)) (value : α) : Prop :=
  field.ofMembers (memberNodes members) = .ok value

variable {members : List (String × Json)} {name : String} {value : α}

theorem Field.reads_of_absent {field : Field α} (hmembers : members.filter (·.1 = field.name) = [])
    (habsent : field.absent = some value) : field.Reads members value := by
  have hnone : occurrences field.name 0 (memberNodes members) = [] := by
    rw [← List.map_eq_nil_iff, map_occurrences_memberNodes, hmembers, List.map_nil]
  rw [Reads, ofMembers, hnone, habsent]
  rfl

theorem Field.reads_of_present {field : Field α} {written : Json}
    (hmembers : members.filter (·.1 = field.name) = [(name, written)])
    (hread : field.decoder written.toNode = .ok value) : field.Reads members value := by
  have hone := map_occurrences_memberNodes field.name members 0
  rw [hmembers, List.map_singleton] at hone
  obtain ⟨⟨place, node⟩, hfound, rfl⟩ := List.map_eq_singleton_iff.mp hone
  rw [Reads, ofMembers, hfound]
  simp only [hread]
  rfl

/-- A member that is always written. -/
theorem Field.reads_required {decoder : Decoder α} (write : α → Json)
    (hmembers : members.filter (·.1 = name) = [(name, write value)])
    (hread : decoder (write value).toNode = .ok value) : (Field.required name decoder).Reads members value :=
  reads_of_present hmembers hread

/-- A member that is always written, though a text may leave it out. -/
theorem Field.reads_defaulted {decoder : Decoder α} {default : α} (write : α → Json)
    (hmembers : members.filter (·.1 = name) = [(name, write value)])
    (hread : decoder (write value).toNode = .ok value) :
    (Field.defaulted name decoder default).Reads members value :=
  reads_of_present hmembers hread

/-- A text that is always written. -/
theorem Field.reads_text {text : String} (hmembers : members.filter (·.1 = name) = [(name, .string text)]) :
    (Field.required name Node.text).Reads members text :=
  reads_required .string hmembers rfl

theorem Node.nullable_of_ne_null {decoder : Decoder α} {node : Node} (hnull : node ≠ .null)
    (hread : decoder node = .ok value) : Node.nullable decoder node = .ok (some value) := by
  unfold Node.nullable
  split
  · exact absurd rfl hnull
  · rw [hread]
    rfl

theorem Node.isSome_of_nullable {decoder : Decoder α} {node : Node} {value : Option α}
    (hread : Node.nullable decoder node = .ok value) : value.isSome ↔ node ≠ .null := by
  unfold Node.nullable at hread
  split at hread
  · cases hread
    exact iff_of_false Bool.false_ne_true fun hother => hother rfl
  · rename_i hother
    cases hdecoded : decoder node with
    | error fault =>
        rw [hdecoded] at hread
        cases hread
    | ok decoded =>
        rw [hdecoded] at hread
        cases hread
        exact iff_of_true rfl hother

/-- A member that is written only if it has a value. The decoder must not take a null, since a field that
may be left out means nothing by it. -/
theorem Field.reads_nullable {field : Field (Option α)} {decoder : Decoder α} {write : α → Json}
    {value : Option α} (hdecoder : field.decoder = Node.nullable decoder) (habsent : field.absent = some none)
    (hmembers : members.filter (·.1 = field.name) = Json.optional field.name write value)
    (hnull : ∀ read, decoder .null ≠ .ok read)
    (hread : ∀ present, value = some present → decoder (write present).toNode = .ok present) :
    field.Reads members value := by
  cases value with
  | none => exact reads_of_absent hmembers habsent
  | some present =>
      have hpresent := hread present rfl
      refine reads_of_present hmembers ?_
      rw [hdecoder]
      refine Node.nullable_of_ne_null ?_ hpresent
      intro hnode
      rw [hnode] at hpresent
      exact hnull present hpresent

theorem Field.reads_optional {decoder : Decoder α} (write : α → Json) {value : Option α}
    (hmembers : members.filter (·.1 = name) = Json.optional name write value)
    (hnull : ∀ read, decoder .null ≠ .ok read)
    (hread : ∀ present, value = some present → decoder (write present).toNode = .ok present) :
    (Field.optional name decoder).Reads members value :=
  reads_nullable rfl rfl hmembers hnull hread

theorem Field.reads_omissible {decoder : Decoder α} (write : α → Json) {value : Option α}
    (hmembers : members.filter (·.1 = name) = Json.optional name write value)
    (hnull : ∀ read, decoder .null ≠ .ok read)
    (hread : ∀ present, value = some present → decoder (write present).toNode = .ok present) :
    (Field.omissible name decoder).Reads members value :=
  reads_nullable rfl rfl hmembers hnull hread

/-! ### Shapes -/

theorem Shape.ofMembers_field {shape : Shape (α → β)} {field : Field α} {members : List (Option String × Node)}
    {make : α → β} (hshape : shape.ofMembers members = .ok make) (hfield : field.ofMembers members = .ok value) :
    (shape.field field).ofMembers members = .ok (make value) := by
  simp only [Shape.field, hshape, hfield]
  rfl

/-- Members that no field takes do no harm if they have names and values that do not break off. -/
theorem Shape.stray?_of_sound (names : List String) {members : List (Option String × Node)}
    (hsound : ∀ member ∈ members, member.1.isSome ∧ member.2.intact) :
    ∀ place, Shape.stray? names true place members = none := by
  induction members with
  | nil => exact fun _ => rfl
  | cons member members ih =>
      obtain ⟨key, node⟩ := member
      obtain ⟨⟨hkey, hnode⟩, hothers⟩ := List.forall_mem_cons.mp hsound
      obtain ⟨other, rfl⟩ := Option.isSome_iff_exists.mp hkey
      intro place
      have hintact : (names.contains other || node.intact) = true := by rw [hnode, Bool.or_true]
      rw [Shape.stray?]
      exact (if_pos hintact).trans (ih hothers (place + 1))

theorem Shape.decode_object {shape : Shape α} {members : List (Option String × Node)}
    (hread : shape.ofMembers members = .ok value)
    (hsound : ∀ member ∈ members, member.1.isSome ∧ member.2.intact) :
    shape.decode (.object members true) = .ok value := by
  simp only [Shape.decode, hread, Shape.stray?_of_sound shape.names hsound]
  rfl

/-- A shape reads an object only if all its fields do. -/
theorem Shape.forall_ofMembers_field {shape : Shape (α → β)} {field : Field α}
    {members : List (Option String × Node)} {holds : β → Prop} :
    (∀ built, (shape.field field).ofMembers members = .ok built → holds built) ↔
      ∀ make, shape.ofMembers members = .ok make →
        ∀ value, field.ofMembers members = .ok value → holds (make value) := by
  refine ⟨fun hbuilt make hmake value hvalue => hbuilt _ (Shape.ofMembers_field hmake hvalue), ?_⟩
  intro hparts built hread
  simp only [Shape.field] at hread
  split at hread
  · cases hread
    exact hparts _ ‹_› _ ‹_›
  · cases hread
  · cases hread
  · cases hread

theorem Shape.forall_ofMembers_make {members : List (Option String × Node)} {holds : α → Prop} :
    (∀ made, (Shape.make value).ofMembers members = .ok made → holds made) ↔ holds value := by
  refine ⟨fun hmade => hmade value rfl, ?_⟩
  rintro hvalue _ ⟨rfl⟩
  exact hvalue

theorem Shape.ofMembers_of_decode {shape : Shape α} {members : List (Option String × Node)} {closed : Bool}
    (hread : shape.decode (.object members closed) = .ok value) : shape.ofMembers members = .ok value := by
  simp only [Shape.decode] at hread
  split at hread
  · cases hread
    assumption
  · cases hread
  · cases hread
  · cases hread

theorem sound_memberNodes (members : List (String × Json)) :
    ∀ member ∈ memberNodes members, member.1.isSome ∧ member.2.intact := by
  rw [memberNodes_eq_map]
  exact List.forall_mem_map.mpr fun member _ => ⟨rfl, intact_toNode member.2⟩

/-- A shape reads a structure from a written object. -/
def Shape.Reads (shape : Shape α) (members : List (String × Json)) (value : α) : Prop :=
  shape.ofMembers (memberNodes members) = .ok value

theorem Shape.reads_make (value : α) (members : List (String × Json)) :
    (Shape.make value).Reads members value := rfl

theorem Shape.Reads.field {shape : Shape (α → β)} {field : Field α} {make : α → β}
    (hshape : shape.Reads members make) (hfield : field.Reads members value) :
    (shape.field field).Reads members (make value) :=
  Shape.ofMembers_field hshape hfield

/-- **What the fields of a shape read is what the shape decodes.** -/
theorem Shape.Reads.decode {shape : Shape α} (hreads : shape.Reads members value) {json : Json}
    (hobject : json = .object members) : shape.decode json.toNode = .ok value := by
  rw [hobject, toNode]
  exact Shape.decode_object hreads (sound_memberNodes members)

/-! ### Lists and variants -/

theorem Node.list_toNode {decoder : Decoder α} {write : α → Json} {values : List α}
    (hread : ∀ value ∈ values, decoder (write value).toNode = .ok value) :
    Node.list decoder (Json.array (values.map write)).toNode = .ok values := by
  have hitems : (itemNodes (values.map write)).mapM decoder = .ok values := by
    induction values with
    | nil => rfl
    | cons value values ih =>
        obtain ⟨hvalue, hvalues⟩ := List.forall_mem_cons.mp hread
        rw [List.map_cons, itemNodes, List.mapM_cons, hvalue, ih hvalues]
        rfl
  rw [toNode, Node.list, hitems]
  rfl

/-- A list is read only if every item is. -/
theorem Node.exists_of_list_toNode {decoder : Decoder α} {write : β → Json} {values : List β}
    {read : List α} (hread : Node.list decoder (Json.array (values.map write)).toNode = .ok read) :
    ∀ value ∈ values, ∃ item, decoder (write value).toNode = .ok item := by
  obtain ⟨items, hitems, -⟩ := eq_ok_of_bind hread
  clear hread
  induction values generalizing items with
  | nil => exact fun value hvalue => absurd hvalue List.not_mem_nil
  | cons value values ih =>
      rw [List.map_cons, itemNodes, List.mapM_cons] at hitems
      obtain ⟨item, hitem, hitems⟩ := eq_ok_of_bind hitems
      obtain ⟨others, hothers, -⟩ := eq_ok_of_bind hitems
      exact List.forall_mem_cons.mpr ⟨⟨item, hitem⟩, ih others hothers⟩

theorem Node.variant_toNode {ofTag? : String → Option α} {tag : String} (htag : ofTag? tag = some value) :
    Node.variant ofTag? (Json.string tag).toNode = .ok value := by
  rw [toNode, Node.variant, htag]
  rfl

end FormEditor.Json
