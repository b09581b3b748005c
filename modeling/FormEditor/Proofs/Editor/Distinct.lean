import FormEditor.Pattern.Standard
import FormEditor.Proofs.Editor.Binding
import FormEditor.Proofs.Editor.Step

/-! Distinct ids. Nothing looks for an id that is taken: an edit brings in only ids that the supply has just
made, and an element that changes, also one that is saved from a draft of long ago, keeps its id. So the ids
of a form stay distinct until another form is read. -/

namespace FormEditor.Editor

variable {editor next : Editor} {opened : Option Element} {drag : Drag} {actions : List Action}

/-- The ids of the form are distinct, and none of them can be made again. -/
structure HasDistinctIds (editor : Editor) : Prop where
  distinct : editor.form.ids.Nodup
  fresh : editor.ids.IsFreshFor editor.form

namespace HasDistinctIds

/-- Every step that reads no form keeps the ids distinct. -/
theorem step (hdistinct : editor.HasDistinctIds) (hstep : editor.Step opened drag actions next)
    (hunread : .documentReplaced ∉ actions) : next.HasDistinctIds := by
  rcases hstep.form with hchange | ⟨hread, -⟩
  · obtain ⟨made, hmakes, hsubperm⟩ := hchange.exists_makes
    obtain ⟨hnodup, hfresh⟩ := hmakes.distinct_of_subperm hsubperm hdistinct.distinct hdistinct.fresh
    exact ⟨hnodup, hfresh⟩
  · exact absurd hread hunread

theorem run [PatternEngine] (steps : List (Operation × Time)) : ∀ {editor : Editor}, editor.HasDistinctIds →
    .documentReplaced ∉ editor.report steps → (editor.run steps).HasDistinctIds := by
  induction steps with
  | nil => exact fun hdistinct _ => hdistinct
  | cons step steps ih =>
      intro editor hdistinct hunread
      obtain ⟨hfirst, hrest⟩ := unreported_of_append hunread
      exact ih (hdistinct.step (editor.step_perform step.1 step.2) hfirst) hrest

end HasDistinctIds

/-- **Ids stay distinct.** If an editor is started on a form whose sections, rows, columns and elements all have
different ids, and the supply makes no id that the form already has, then these ids are all different
after any run, in any order of drops, edits, dialogs and menus, on which no form is read from its text. -/
theorem ids_stay_distinct [PatternEngine] {form : Form} (hdistinct : form.ids.Nodup) (config : EditorConfig)
    {supply : IdSupply} (hfresh : supply.IsFreshFor form) (started : Time) {steps : List (Operation × Time)}
    (hunread : .documentReplaced ∉ (start form config supply started).report steps) :
    ((start form config supply started).run steps).form.ids.Nodup := by
  have hstart : (start form config supply started).HasDistinctIds := ⟨hdistinct, hfresh⟩
  exact (hstart.run steps hunread).distinct

/-- An element is dropped and copied, and a draft of it is saved after it was morphed. -/
theorem copied_ids_stay_distinct :
    let elementId := IdSupply.id "text" 0
    let steps : List (Operation × Time) := [(.dropOnCanvas (.ofType .text), 0), (.openDialog elementId, 0),
      (.duplicateElement elementId, 0), (.morphElement elementId .email, 0), (.dropOnCanvas (.ofType .title), 0),
      (.saveDialog, 0)]
    let editor := (start (.blank "u") .standard ⟨0⟩ 0).run steps
    editor.form.ids.length = 9 ∧ editor.form.ids.Nodup := by
  intro elementId steps
  have hdistinct : (Form.blank "u").ids.Nodup := by decide +kernel
  have hfresh : (⟨0⟩ : IdSupply).IsFreshFor (.blank "u") := IdSupply.isFreshFor_of_length_le (by decide +kernel) _
  have hunread : .documentReplaced ∉ (start (.blank "u") .standard ⟨0⟩ 0).report steps := by decide +kernel
  exact ⟨by decide +kernel, ids_stay_distinct hdistinct .standard hfresh 0 hunread⟩

end FormEditor.Editor
