import FormEditor.Proofs.Form.Change

/-! Gaps in the rows of a form. To insert a row, to copy an element beside itself or to swap two rows is to put
other rows in the place of some that stand side by side in one section. What stays is the gap around them, so
each of these edits is told by a gap and the rows before and after. A deletion that has nothing to do with
the rows around a gap does its work within the gap alone, which is how such an edit is undone. -/

namespace FormEditor

variable {α : Type}

/-- What is in a form around some rows that stand side by side in a section. -/
structure RowGap where
  before : List Section
  id : String
  title : String
  above : List Row
  below : List Row
  after : List Section

namespace RowGap

/-- The section of a gap with some rows in it. -/
def part (gap : RowGap) (rows : List Row) : Section :=
  ⟨gap.id, gap.title, gap.above ++ rows ++ gap.below⟩

/-- The sections of a form with some rows in a gap. -/
def sections (gap : RowGap) (rows : List Row) : List Section :=
  gap.before ++ gap.part rows :: gap.after

/-- The rows that are not in a gap. -/
def around (gap : RowGap) : List Row :=
  gap.before.flatMap (·.rows) ++ (gap.above ++ gap.below) ++ gap.after.flatMap (·.rows)

end RowGap

namespace Form

variable {form : Form} {gap : RowGap} {rows : List Row} {policy : DeletePolicy} {elementId : String}

theorem id_mem_ids {element : Element} (helement : element ∈ form.elements) : element.id ∈ form.ids := by
  obtain ⟨column, hcolumn, rfl⟩ := List.mem_map.mp helement
  obtain ⟨row, hrow, hcolumn⟩ := List.mem_flatMap.mp hcolumn
  obtain ⟨part, hpart, hrow⟩ := List.mem_flatMap.mp hrow
  simp only [ids, List.mem_flatMap, List.mem_cons]
  exact ⟨part, hpart, Or.inr ⟨row, hrow, Or.inr ⟨column, hcolumn, Or.inr (Or.inl rfl)⟩⟩⟩

theorem absent_of_isFreshFor {ids : IdSupply} (hfresh : ids.IsFreshFor form) (kind : String) :
    ∀ element ∈ form.elements, element.id ≠ IdSupply.id kind ids.next := by
  intro element helement hsame
  exact hfresh kind ids.next (Nat.le_refl _) (hsame ▸ id_mem_ids helement)

theorem withSections_eq_self {sections : List Section} (hsections : form.sections = sections) :
    form.withSections sections = form := by
  rw [← hsections, withSections]

theorem rows_gap (hsections : form.sections = gap.sections rows) :
    form.rows = gap.before.flatMap (·.rows) ++ (gap.above ++ rows ++ gap.below) ++ gap.after.flatMap (·.rows) := by
  simp [Form.rows, hsections, RowGap.sections, RowGap.part]

theorem perm_rows_gap (hsections : form.sections = gap.sections rows) : form.rows.Perm (rows ++ gap.around) := by
  rw [rows_gap hsections, List.perm_iff_count]
  intro row
  simp only [RowGap.around, List.count_append]
  omega

theorem mem_rows_gap (hsections : form.sections = gap.sections rows) {row : Row} :
    row ∈ form.rows ↔ row ∈ rows ∨ row ∈ gap.around :=
  (perm_rows_gap hsections).mem_iff.trans List.mem_append

/-- A deletion that does not touch the rows around a gap does its work within the gap. -/
theorem deleteElement_gap (form : Form) (haround : ∀ row ∈ gap.around, row.IsUntouched policy elementId)
    (rows : List Row) :
    (form.withSections (gap.sections rows)).deleteElement policy elementId =
      (rows.countP (Row.isDropped policy elementId), form.withSections (gap.sections
        ((rows.filter (!·.isDropped policy elementId)).map (Row.withoutElement elementId)))) := by
  simp only [RowGap.around, List.forall_mem_append] at haround
  obtain ⟨⟨hbefore, habove, hbelow⟩, hafter⟩ := haround
  have hrows : (form.withSections (gap.sections rows)).rows = _ := rows_gap rfl
  refine Prod.ext ?_ ?_
  · rw [removed_deleteElement, hrows]
    simp only [List.countP_append, Row.countP_isDropped_eq_zero hbefore, Row.countP_isDropped_eq_zero habove,
      Row.countP_isDropped_eq_zero hbelow, Row.countP_isDropped_eq_zero hafter]
    omega
  · show form.withSections ((gap.sections rows).map (Section.deleteElement policy elementId)) = _
    simp only [RowGap.sections, List.map_append, List.map_cons, Section.map_deleteElement_eq_self hbefore,
      Section.map_deleteElement_eq_self hafter, Section.deleteElement_eq, RowGap.part, List.filter_append,
      Row.kept_eq_self habove, Row.kept_eq_self hbelow]

end Form

end FormEditor
