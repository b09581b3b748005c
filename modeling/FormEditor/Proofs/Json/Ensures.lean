import FormEditor.Json.Shape
import FormEditor.Proofs.Result

/-! What decoders ensure. Whatever a text holds, a value that a decoder lets through has been put together
from values that its parts let through, so what each part ensures adds up to what the whole ensures. -/

namespace FormEditor.Json

variable {α β : Type} {holds : α → Prop}

/-- Every value that a decoder lets through has a property. -/
def Decoder.Ensures (decoder : Decoder α) (holds : α → Prop) : Prop :=
  ∀ node value, decoder node = .ok value → holds value

/-- A field ensures what its decoder and its defaults ensure. -/
structure Field.Ensures (field : Field α) (holds : α → Prop) : Prop where
  decoder : field.decoder.Ensures holds
  absent : ∀ value, field.absent = some value → holds value
  short : ∀ value, field.short = some value → holds value

/-- A shape ensures a property in both of its spellings. -/
structure Shape.Ensures (shape : Shape α) (holds : α → Prop) : Prop where
  members : ∀ members value, shape.ofMembers members = .ok value → holds value
  items : ∀ closed items value rest, shape.ofItems closed items = .ok (value, rest) → holds value

theorem Decoder.ensures_true (decoder : Decoder α) : decoder.Ensures fun _ => True :=
  fun _ _ _ => trivial

theorem Node.ensures_nullable {decoder : Decoder α} (hdecoder : decoder.Ensures holds) :
    (Node.nullable decoder).Ensures fun read => ∀ value, read = some value → holds value := by
  intro node read hread value hvalue
  unfold Node.nullable at hread
  split at hread
  · cases hread
    cases hvalue
  · cases hdecoded : decoder _ with
    | error fault =>
        rw [hdecoded] at hread
        cases hread
    | ok decoded =>
        rw [hdecoded] at hread
        cases hread
        cases hvalue
        exact hdecoder _ _ hdecoded

theorem mapM_ensures {decoder : Decoder α} (hdecoder : decoder.Ensures holds) (items : List Node) :
    ∀ {values : List α}, items.mapM decoder = .ok values → ∀ value ∈ values, holds value := by
  induction items with
  | nil =>
      rintro _ ⟨rfl⟩
      nofun
  | cons item items ih =>
      intro values hread
      rw [List.mapM_cons] at hread
      obtain ⟨value, hitem, hread⟩ := eq_ok_of_bind hread
      obtain ⟨others, hitems, hread⟩ := eq_ok_of_bind hread
      cases hread
      exact List.forall_mem_cons.mpr ⟨hdecoder item value hitem, ih hitems⟩

theorem Node.ensures_list {decoder : Decoder α} (hdecoder : decoder.Ensures holds) :
    (Node.list decoder).Ensures fun values => ∀ value ∈ values, holds value := by
  intro node values hread
  unfold Node.list at hread
  split at hread
  · rename_i items closed
    obtain ⟨read, hitems, hread⟩ := eq_ok_of_bind hread
    split at hread
    · cases hread
      exact mapM_ensures hdecoder items hitems
    · cases hread
  · cases hread

/-! ### Fields -/

theorem Field.ensures_true (field : Field α) : field.Ensures fun _ => True :=
  ⟨field.decoder.ensures_true, fun _ _ => trivial, fun _ _ => trivial⟩

theorem Field.ensures_required {decoder : Decoder α} (hdecoder : decoder.Ensures holds) (name : String) :
    (Field.required name decoder).Ensures holds :=
  ⟨hdecoder, nofun, nofun⟩

theorem Field.ensures_omissible {decoder : Decoder α} (hdecoder : decoder.Ensures holds) (name : String) :
    (Field.omissible name decoder).Ensures fun read => ∀ value, read = some value → holds value := by
  refine ⟨Node.ensures_nullable hdecoder, ?_, ?_⟩
  · rintro _ ⟨rfl⟩
    nofun
  · rintro _ ⟨rfl⟩
    nofun

theorem Field.Ensures.ofMembers {field : Field α} (hfield : field.Ensures holds)
    {members : List (Option String × Node)} {value : α} (hread : field.ofMembers members = .ok value) :
    holds value := by
  unfold Field.ofMembers at hread
  split at hread
  · split at hread
    · cases hread
      exact hfield.absent _ ‹_›
    · cases hread
  · split at hread
    · cases hread
    · cases hread
      exact hfield.decoder _ _ ‹_›
    · cases hread

theorem Field.Ensures.ofItems {field : Field α} (hfield : field.Ensures holds) {closed : Bool}
    {items rest : List Node} {value : α} (hread : field.ofItems closed items = .ok (value, rest)) :
    holds value := by
  unfold Field.ofItems at hread
  split at hread
  · obtain ⟨decoded, hdecoded, hread⟩ := eq_ok_of_bind hread
    cases hread
    exact hfield.decoder _ _ hdecoded
  · split at hread
    · cases hread
      exact hfield.short _ ‹_›
    · cases hread

/-! ### Shapes -/

theorem Shape.ensures_make (value : α) : (Shape.make value).Ensures (· = value) := by
  refine ⟨?_, ?_⟩
  · rintro _ _ ⟨rfl⟩
    rfl
  · rintro _ _ _ _ ⟨rfl⟩
    rfl

theorem Shape.Ensures.imp {shape : Shape α} {implied : α → Prop} (hshape : shape.Ensures holds)
    (himp : ∀ value, holds value → implied value) : shape.Ensures implied :=
  ⟨fun members value hread => himp value (hshape.members members value hread),
    fun closed items value rest hread => himp value (hshape.items closed items value rest hread)⟩

theorem Shape.Ensures.field {shape : Shape (α → β)} {makes : (α → β) → Prop} {field : Field α}
    (hshape : shape.Ensures makes) (hfield : field.Ensures holds) :
    (shape.field field).Ensures fun built => ∃ make value, makes make ∧ holds value ∧ built = make value := by
  refine ⟨?_, ?_⟩
  · intro members built hread
    simp only [Shape.field] at hread
    split at hread
    · cases hread
      exact ⟨_, _, hshape.members _ _ ‹_›, hfield.ofMembers ‹_›, rfl⟩
    · cases hread
    · cases hread
    · cases hread
  · intro closed items built rest hread
    obtain ⟨made, hmake, hread⟩ := eq_ok_of_bind hread
    obtain ⟨taken, hvalue, hread⟩ := eq_ok_of_bind hread
    cases hread
    exact ⟨_, _, hshape.items _ _ _ _ hmake, hfield.ofItems hvalue, rfl⟩

/-- **What the fields of a shape ensure, the shape ensures**, of objects and of arrays. -/
theorem Shape.Ensures.decode {shape : Shape α} (hshape : shape.Ensures holds) :
    shape.decode.Ensures holds := by
  intro node value hread
  unfold Shape.decode at hread
  split at hread
  · split at hread
    · cases hread
      exact hshape.members _ _ ‹_›
    · cases hread
    · cases hread
    · cases hread
  · obtain ⟨⟨decoded, rest⟩, hitems, hread⟩ := eq_ok_of_bind hread
    simp only at hread
    split at hread
    · cases hread
      exact hshape.items _ _ _ _ hitems
    · cases hread
  · cases hread

theorem decodeText_ensures {decoder : Decoder α} (hdecoder : decoder.Ensures holds) {text : String}
    {value : α} (hread : decodeText decoder text = .ok value) : holds value := by
  have hbind : (decoder (Node.read text).1 >>= fun decoded =>
      if (Node.read text).2 then pure decoded else throw .malformed) = .ok value := hread
  obtain ⟨decoded, hdecoded, hread⟩ := eq_ok_of_bind hbind
  split at hread
  · cases hread
    exact hdecoder _ _ hdecoded
  · cases hread

end FormEditor.Json
