import Mathlib.Data.List.Induction
import Mathlib.Logic.Function.Iterate
import FormEditor.Pattern.Standard
import FormEditor.Proofs.Form.Validation

/-! Values that are entered one after another. Every call puts a value under the id of its field and renews the
message there, from that value alone. So all that is left of many calls under one id is the last of them, and
calls under different ids do not meet. If the ids of a form are distinct, the id tells the field, and an entry is
known from where it started and from the last value for each field. -/

namespace FormEditor.Entry

/-- The entry after values were entered for fields, one call after another. -/
def enterAll [PatternEngine] (entry : Entry) (calls : List (InputField × Json)) : Entry :=
  calls.foldl (fun entry call => entry.setValue call.1 call.2) entry

/-- The last of the calls for a field with the id. -/
def lastCall? (calls : List (InputField × Json)) (fieldId : String) : Option (InputField × Json) :=
  (calls.filter (·.1.id = fieldId)).getLast?

/-- The value of the last of the calls for a field with the id. -/
def lastValue? (calls : List (InputField × Json)) (fieldId : String) : Option Json :=
  (lastCall? calls fieldId).map (·.2)

variable {form : Form} {field : InputField} {calls others : List (InputField × Json)} {name : String}

/-! ### One call -/

theorem value?_setValue [PatternEngine] (entry : Entry) (field : InputField) (value : Json) (name : String) :
    (entry.setValue field value).value? name = if field.id = name then some value else entry.value? name :=
  Dictionary.get?_insert ..

theorem error?_setValue [PatternEngine] (entry : Entry) (field : InputField) (value : Json) (name : String) :
    (entry.setValue field value).error? name =
      if field.id = name then field.complaint? (some value) else entry.error? name := by
  have hentered := value?_setValue entry field value field.id
  rw [if_pos rfl] at hentered
  rw [setValue, error?_validate]
  exact congrArg (fun told => if field.id = name then field.complaint? told else entry.error? name) hentered

/-! ### The last call -/

theorem lastCall?_concat (calls : List (InputField × Json)) (call : InputField × Json) (name : String) :
    lastCall? (calls ++ [call]) name = if call.1.id = name then some call else lastCall? calls name := by
  rw [lastCall?, List.filter_append]
  by_cases hname : call.1.id = name
  · simp [hname]
  · simp [hname, lastCall?]

theorem lastValue?_concat (calls : List (InputField × Json)) (call : InputField × Json) (name : String) :
    lastValue? (calls ++ [call]) name = if call.1.id = name then some call.2 else lastValue? calls name := by
  rw [lastValue?, lastCall?_concat, apply_ite (Option.map _)]
  rfl

theorem id_of_lastCall? {call : InputField × Json} (hlast : lastCall? calls name = some call) :
    call ∈ calls ∧ call.1.id = name := by
  obtain ⟨hmem, hname⟩ := List.mem_filter.mp (List.mem_of_getLast? hlast)
  exact ⟨hmem, of_decide_eq_true hname⟩

theorem lastCall?_of_not_mem (hcalls : ∀ call ∈ calls, call.1 ∈ form.fields)
    (hname : name ∉ form.fields.map (·.id)) : lastCall? calls name = none := by
  cases hlast : lastCall? calls name with
  | none => rfl
  | some call =>
      obtain ⟨hmem, rfl⟩ := id_of_lastCall? hlast
      exact absurd (List.mem_map_of_mem (hcalls call hmem)) hname

theorem enterAll_concat [PatternEngine] (entry : Entry) (calls : List (InputField × Json)) (call : InputField × Json) :
    entry.enterAll (calls ++ [call]) = (entry.enterAll calls).setValue call.1 call.2 := by
  rw [enterAll, List.foldl_append]
  rfl

theorem value?_enterAll [PatternEngine] (entry : Entry) (calls : List (InputField × Json)) (name : String) :
    (entry.enterAll calls).value? name = (lastValue? calls name).or (entry.value? name) := by
  induction calls using List.reverseRecOn with
  | nil => rfl
  | append_singleton calls call ih =>
      rw [enterAll_concat, value?_setValue, ih, lastValue?_concat]
      by_cases hname : call.1.id = name
      · simp [hname]
      · simp [hname]

/-- A message is about the last value, whatever was told about earlier ones. -/
theorem error?_enterAll [PatternEngine] (entry : Entry) (calls : List (InputField × Json)) (name : String) :
    (entry.enterAll calls).error? name =
      (lastCall? calls name).elim (entry.error? name) fun call => call.1.complaint? (some call.2) := by
  induction calls using List.reverseRecOn with
  | nil => rfl
  | append_singleton calls call ih =>
      rw [enterAll_concat, error?_setValue, ih, lastCall?_concat]
      by_cases hname : call.1.id = name
      · simp [hname]
      · simp [hname]

theorem eq_of_lookups {left right : Entry} (hvalues : ∀ name, left.value? name = right.value? name)
    (herrors : ∀ name, left.error? name = right.error? name) : left = right := by
  have hvalues : left.values = right.values := Dictionary.ext_get? hvalues
  have herrors : left.errors = right.errors := Dictionary.ext_get? herrors
  cases left
  cases right
  cases hvalues
  cases herrors
  rfl

/-- The messages that the fields had before do not matter. -/
theorem foldl_validate_congr [PatternEngine] {fields : List InputField} :
    ∀ {left right : Entry}, left.values = right.values →
    (∀ name, name ∉ fields.map (·.id) → left.error? name = right.error? name) →
      fields.foldl validate left = fields.foldl validate right := by
  induction fields with
  | nil =>
      intro left right hvalues herrors
      have hvalue (name : String) : left.value? name = right.value? name := congrArg (Dictionary.get? · name) hvalues
      exact eq_of_lookups hvalue fun name => herrors name List.not_mem_nil
  | cons field fields ih =>
      intro left right hvalues herrors
      refine @ih (left.validate field) (right.validate field) hvalues fun name hname => ?_
      rw [error?_validate, error?_validate]
      by_cases hid : field.id = name
      · rw [if_pos hid, if_pos hid, value?, hvalues, value?]
      · rw [if_neg hid, if_neg hid]
        exact herrors name fun hmem => (List.mem_cons.mp hmem).elim (fun hsame => hid hsame.symm) hname

/-- What is in an entry after calls that started from another one. A field with a call has the value of its last
call, and a message exactly if it fails with it. Everything else is as at the start, and has no message. -/
structure Holds [PatternEngine] (form : Form) (start : Entry) (calls : List (InputField × Json)) (entry : Entry) :
    Prop where
  value : ∀ field ∈ form.fields, ∀ value, lastValue? calls field.id = some value →
    entry.value? field.id = some value
  error : ∀ field ∈ form.fields, (lastValue? calls field.id).isSome →
    ((entry.error? field.id).isSome ↔ field.Fails entry)
  untouched : ∀ name, lastValue? calls name = none →
    entry.value? name = start.value? name ∧ entry.error? name = none

end FormEditor.Entry
