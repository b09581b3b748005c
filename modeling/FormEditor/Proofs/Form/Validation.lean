import Mathlib.Data.List.Nodup
import FormEditor.Entry
import FormEditor.Proofs.Json.FreeForm

/-! The validation of an entry against a form. What a field is told depends on its validation and on the value that
is entered for it, and on nothing that was told before. So validating all fields of a form gives a message to
those that fail and takes it from the others, but it passes over the messages of names that no field of
the form has: they are still there afterwards, and they are counted. Nothing is asked of the engine for
patterns: which texts are patterns, and where they are found, is as it says. -/

namespace FormEditor

namespace Dictionary

variable {α : Type} {dictionary : Dictionary α} {name : String}

def names (dictionary : Dictionary α) : List String :=
  dictionary.entries.map (·.1)

theorem nodup_names (dictionary : Dictionary α) : dictionary.names.Nodup := by
  refine List.pairwise_map.mpr (dictionary.sorted.imp ?_)
  intro left right hless hsame
  rw [hsame] at hless
  exact String.lt_irrefl _ hless

theorem mem_names_iff : name ∈ dictionary.names ↔ (dictionary.get? name).isSome := by
  rw [← not_iff_not, Option.not_isSome_iff_eq_none, get?_eq_none_iff, names, List.mem_map]
  simp only [not_exists, not_and]

end Dictionary

/-- A field fails if it has a validation with a pattern that can be read, and the text of its value, or of none, is
empty or does not match. -/
def InputField.Fails [PatternEngine] (field : InputField) (entry : Entry) : Prop :=
  ∃ validation pattern, field.validation = some validation ∧
    PatternEngine.compile? validation.regex = some pattern ∧
    let text := ((entry.value? field.id).map Json.entryText).getD ""
    text = "" ∨ PatternEngine.matchesIn pattern text = false

theorem Validation.rejects_iff [PatternEngine] {validation : Validation} {text : String} :
    validation.rejects text = true ↔
      ∃ pattern, PatternEngine.compile? validation.regex = some pattern ∧
        (text = "" ∨ PatternEngine.matchesIn pattern text = false) := by
  unfold rejects
  cases PatternEngine.compile? validation.regex <;> simp

namespace InputField

variable {field : InputField} {entry other : Entry}

theorem isSome_complaint?_iff [PatternEngine] :
    (field.complaint? (entry.value? field.id)).isSome ↔ field.Fails entry := by
  unfold complaint? Fails
  cases field.validation with
  | none => simp
  | some validation =>
      simp only [Option.some.injEq, exists_and_left, exists_eq_left', ← Validation.rejects_iff]
      split <;> simp_all

instance  [PatternEngine]: Decidable (field.Fails entry) :=
  decidable_of_iff _ isSome_complaint?_iff

/-- Messages do not make a field fail. -/
theorem Fails.of_values [PatternEngine] (hfails : field.Fails entry) (hvalues : entry.values = other.values) :
    field.Fails other := by
  unfold Fails Entry.value? at hfails ⊢
  rw [← hvalues]
  exact hfails

end InputField

namespace Form

/-- The fields of a form that fail, in the order of the form. -/
def failing [PatternEngine] (form : Form) (entry : Entry) : List InputField :=
  form.fields.filter fun field => decide (field.Fails entry)

/-- A field of the form that has the name fails. -/
def FailsAt [PatternEngine] (form : Form) (entry : Entry) (name : String) : Prop :=
  ∃ field ∈ form.fields, field.id = name ∧ field.Fails entry

theorem FailsAt.of_values [PatternEngine] {form : Form} {entry other : Entry} {name : String}
    (hfails : form.FailsAt entry name) (hvalues : entry.values = other.values) : form.FailsAt other name := by
  obtain ⟨field, hfield, hid, hfails⟩ := hfails
  exact ⟨field, hfield, hid, hfails.of_values hvalues⟩

theorem mem_fields_of_findField {form : Form} {fieldId : String} {field : InputField}
    (hfield : form.findField fieldId = some field) : field ∈ form.fields := by
  obtain ⟨element, helement, hinput⟩ := Option.bind_eq_some_iff.mp hfield
  exact List.mem_filterMap.mpr ⟨element, List.mem_of_find?_eq_some helement, hinput⟩

theorem failing_eq_nil_iff [PatternEngine] {form : Form} {entry : Entry} :
    form.failing entry = [] ↔ ∀ field ∈ form.fields, ¬field.Fails entry := by
  simp [failing, List.filter_eq_nil_iff]

/-- A field of a form with distinct ids fails if its id is that of one that fails. -/
theorem mem_failing_iff [PatternEngine] {form : Form} {entry : Entry} (hdistinct : (form.fields.map (·.id)).Nodup)
    {field : InputField} (hfield : field ∈ form.fields) :
    field.id ∈ (form.failing entry).map (·.id) ↔ field.Fails entry := by
  refine ⟨fun hmem => ?_, fun hfails => List.mem_map_of_mem (List.mem_filter.mpr ⟨hfield, by simpa using hfails⟩)⟩
  obtain ⟨other, hother, hid⟩ := List.mem_map.mp hmem
  obtain ⟨hother, hfails⟩ := List.mem_filter.mp hother
  rw [← List.inj_on_of_nodup_map hdistinct hother hfield hid]
  exact of_decide_eq_true hfails

theorem map_id_fields_sublist (form : Form) :
    (form.fields.map (·.id)).Sublist (form.elements.map (·.id)) := by
  unfold fields
  induction form.elements with
  | nil => exact List.Sublist.refl _
  | cons element elements ih =>
      cases element with
      | display block => exact ih.cons _
      | input field => exact ih.cons_cons field.id

end Form

namespace Entry

variable {entry : Entry} {form : Form} {field : InputField} {name : String}

/-- The names that have a message but are not those of a field of the form. -/
def orphans (entry : Entry) (form : Form) : List String :=
  entry.errors.names.filter (· ∉ form.fields.map (·.id))

theorem mem_orphans_iff :
    name ∈ entry.orphans form ↔ (entry.error? name).isSome ∧ name ∉ form.fields.map (·.id) := by
  rw [orphans, List.mem_filter, Dictionary.mem_names_iff, decide_eq_true_iff]
  rfl

theorem error?_validate [PatternEngine] (entry : Entry) (field : InputField) (name : String) :
    (entry.validate field).error? name =
      if field.id = name then field.complaint? (entry.value? field.id) else entry.error? name := by
  unfold validate error?
  cases field.complaint? (entry.value? field.id) with
  | none => exact Dictionary.get?_erase ..
  | some message => exact Dictionary.get?_insert ..

/-! ### Validating field after field -/

variable {fields : List InputField}

theorem error?_foldl_of_not_mem [PatternEngine] (hother : name ∉ fields.map (·.id)) :
    ∀ entry : Entry, (fields.foldl validate entry).error? name = entry.error? name := by
  induction fields with
  | nil => exact fun _ => rfl
  | cons field fields ih =>
      intro entry
      obtain ⟨hfirst, hrest⟩ := not_or.mp (mt List.mem_cons.mpr hother)
      rw [List.foldl_cons, ih hrest, error?_validate, if_neg (Ne.symm hfirst)]

theorem error?_foldl_of_mem [PatternEngine] (hdistinct : (fields.map (·.id)).Nodup) (hfield : field ∈ fields) :
    ∀ entry : Entry, (fields.foldl validate entry).error? field.id = field.complaint? (entry.value? field.id) := by
  induction fields with
  | nil => cases hfield
  | cons first fields ih =>
      intro entry
      obtain ⟨hfresh, hdistinct⟩ := List.nodup_cons.mp hdistinct
      rcases List.mem_cons.mp hfield with rfl | hlater
      · rw [List.foldl_cons, error?_foldl_of_not_mem hfresh, error?_validate, if_pos rfl]
      · exact ih hdistinct hlater (entry.validate first)

/-- A message comes from a field that fails, or was there before. -/
theorem fails_of_error?_foldl [PatternEngine] :
    ∀ {entry : Entry}, ((fields.foldl validate entry).error? name).isSome →
      (entry.error? name).isSome ∨ ∃ field ∈ fields, field.id = name ∧ field.Fails entry := by
  induction fields with
  | nil => exact fun hmessage => Or.inl hmessage
  | cons first fields ih =>
      intro entry hmessage
      rcases ih hmessage with hbefore | ⟨field, hfield, hid, hfails⟩
      · rw [error?_validate] at hbefore
        split at hbefore
        · rename_i hid
          exact Or.inr ⟨first, List.mem_cons_self, hid, InputField.isSome_complaint?_iff.mp hbefore⟩
        · exact Or.inl hbefore
      · exact Or.inr ⟨field, List.mem_cons_of_mem first hfield, hid, hfails.of_values rfl⟩

/-! ### Validating all fields -/

/-- Validation leaves the values as they are. -/
@[simp] theorem values_validateAll [PatternEngine] (entry : Entry) (form : Form) :
    (entry.validateAll form).values = entry.values := by
  unfold validateAll
  induction form.fields generalizing entry with
  | nil => rfl
  | cons field fields ih => exact (ih (entry.validate field)).trans rfl

theorem failsAt_of_error?_validateAll [PatternEngine] (hmessage : ((entry.validateAll form).error? name).isSome) :
    (entry.error? name).isSome ∨ form.FailsAt entry name :=
  fails_of_error?_foldl hmessage

/-- Of the messages after all fields were validated, some are for the fields that fail and the others were there
before, under names that no field has. -/
theorem names_validateAll_perm [PatternEngine] (hdistinct : (form.fields.map (·.id)).Nodup) :
    (entry.validateAll form).errors.names.Perm ((form.failing entry).map (·.id) ++ entry.orphans form) := by
  have hfailing : ((form.failing entry).map (·.id)).Nodup := hdistinct.sublist (List.filter_sublist.map _)
  have horphans : (entry.orphans form).Nodup := entry.errors.nodup_names.filter _
  have hknown : ∀ name ∈ (form.failing entry).map (·.id), name ∈ form.fields.map (·.id) :=
    fun name hname => (List.filter_sublist.map _).subset hname
  have hapart : ((form.failing entry).map (·.id)).Disjoint (entry.orphans form) :=
    fun name hname horphan => (mem_orphans_iff.mp horphan).2 (hknown name hname)
  -- no name stands twice on either side, so that the names need only be the same
  rw [List.perm_ext_iff_of_nodup (Dictionary.nodup_names _) (hfailing.append horphans hapart)]
  intro name
  rw [Dictionary.mem_names_iff, List.mem_append, mem_orphans_iff]
  change ((form.fields.foldl validate entry).error? name).isSome ↔ _
  by_cases hname : name ∈ form.fields.map (·.id)
  · obtain ⟨field, hfield, rfl⟩ := List.mem_map.mp hname
    rw [error?_foldl_of_mem hdistinct hfield, InputField.isSome_complaint?_iff, Form.mem_failing_iff hdistinct hfield]
    exact (or_iff_left fun horphan => horphan.2 hname).symm
  · rw [error?_foldl_of_not_mem hname]
    simp only [hname, not_false_eq_true, and_true]
    exact (or_iff_right fun hfails => hname (hknown name hfails)).symm

theorem size_errors_validateAll [PatternEngine] (hdistinct : (form.fields.map (·.id)).Nodup) :
    (entry.validateAll form).errors.size = (form.failing entry).length + (entry.orphans form).length := by
  have hlength : (entry.validateAll form).errors.names.length = _ := (names_validateAll_perm hdistinct).length_eq
  rw [Dictionary.names, List.length_map, List.length_append, List.length_map] at hlength
  exact hlength

theorem hasErrors_validateAll_iff [PatternEngine] (hdistinct : (form.fields.map (·.id)).Nodup) :
    (entry.validateAll form).hasErrors = true ↔ form.failing entry ≠ [] ∨ entry.orphans form ≠ [] := by
  have hsize : (entry.validateAll form).errors.size = _ := size_errors_validateAll hdistinct
  rw [Dictionary.size] at hsize
  simp only [hasErrors, Dictionary.isEmpty, Bool.not_eq_true', List.isEmpty_eq_false_iff,
    ← List.length_pos_iff, hsize]
  omega

end Entry

end FormEditor
