import Mathlib.Data.List.Flatten
import Mathlib.Data.List.Perm.Subperm
import FormEditor.Proofs.Form.Deletion
import FormEditor.Proofs.Form.Derived

/-! The parts of an edited form. An edit that moves, deletes or adds parts leaves behind the sections, and of
the rows and columns those that were there, some left out, and the new ones. An edit that replaces elements
leaves every row and every column where it was. -/

namespace FormEditor

variable {α β : Type}

theorem subperm_flatMap {left right : List α} (hsubperm : left.Subperm right) (parts : α → List β) :
    (left.flatMap parts).Subperm (right.flatMap parts) := by
  obtain ⟨middle, hperm, hsublist⟩ := hsubperm
  exact ⟨middle.flatMap parts, hperm.flatMap_right parts, hsublist.flatMap parts⟩

/-- A heading before each group may as well stand before all of them. -/
theorem flatMap_cons_perm (items : List α) (head : α → β) (parts : α → List β) :
    (items.flatMap fun item => head item :: parts item).Perm (items.map head ++ items.flatMap parts) := by
  rw [List.map_eq_flatMap]
  exact (List.flatMap_append_perm items (fun item => [head item]) parts).symm

/-- The ids of a column and of its element. -/
def Column.ids (column : Column) : List String :=
  [column.id, column.element.id]

/-- One column became another one as a draft took the place of its element, if that has the id of the draft. -/
structure Column.Replaces (draft : Element) (old new : Column) : Prop where
  id : new.id = old.id
  width : new.width = old.width
  element : new.element = if old.element.id = draft.id then draft else old.element

structure Row.Replaces (draft : Element) (old new : Row) : Prop where
  id : new.id = old.id
  condition : new.condition = old.condition
  columns : List.Forall₂ (Column.Replaces draft) old.columns new.columns

structure Section.Replaces (draft : Element) (old new : Section) : Prop where
  id : new.id = old.id
  title : new.title = old.title
  rows : List.Forall₂ (Row.Replaces draft) old.rows new.rows

/-- One form became another one as a draft took the place of the elements of its id, and of nothing else. -/
structure Form.Replaces (draft : Element) (old new : Form) : Prop where
  config : new.config = old.config
  registry : new.registry = old.registry
  sections : List.Forall₂ (Section.Replaces draft) old.sections new.sections

namespace Form

variable {form next : Form}

/-- The ids of a form, those of the sections first, then those of the rows. -/
theorem ids_perm (form : Form) :
    form.ids.Perm (form.sections.map (·.id) ++ (form.rows.map (·.id) ++ form.columns.flatMap Column.ids)) := by
  have hrows : form.rows.flatMap (fun row => row.id :: row.columns.flatMap Column.ids) =
      form.sections.flatMap fun part => part.rows.flatMap fun row => row.id :: row.columns.flatMap Column.ids :=
    List.flatMap_assoc
  have hcolumns : form.columns.flatMap Column.ids =
      form.rows.flatMap fun row => row.columns.flatMap Column.ids :=
    List.flatMap_assoc
  have hsections := flatMap_cons_perm form.sections (·.id) fun part =>
    part.rows.flatMap fun row => row.id :: row.columns.flatMap Column.ids
  rw [← hrows] at hsections
  refine hsections.trans (List.Perm.append_left _ ?_)
  rw [hcolumns]
  exact flatMap_cons_perm form.rows (·.id) fun row => row.columns.flatMap Column.ids

/-- A form has the sections of another one, and no rows and columns but those of that one and the given. -/
structure GrowsBy (form : Form) (rowIds : List String) (columns : List Column) (next : Form) : Prop where
  sections : next.sections.map (·.id) = form.sections.map (·.id)
  rows : (next.rows.map (·.id)).Subperm (rowIds ++ form.rows.map (·.id))
  columns : next.columns.Subperm (columns ++ form.columns)

theorem GrowsBy.ids_subperm {rowIds : List String} {columns : List Column}
    (hgrows : form.GrowsBy rowIds columns next) :
    next.ids.Subperm (rowIds ++ columns.flatMap Column.ids ++ form.ids) := by
  have hcolumns := subperm_flatMap hgrows.columns Column.ids
  rw [List.flatMap_append] at hcolumns
  have hparts : next.ids.Subperm (form.sections.map (·.id) ++
      (rowIds ++ form.rows.map (·.id) ++ (columns.flatMap Column.ids ++ form.columns.flatMap Column.ids))) := by
    refine next.ids_perm.subperm.trans ?_
    rw [hgrows.sections]
    exact (List.Subperm.refl _).append (hgrows.rows.append hcolumns)
  refine hparts.trans (List.Perm.subperm ?_)
  refine List.Perm.trans ?_ (form.ids_perm.symm.append_left _)
  -- only the order differs: the new ids stand behind the old sections here, and before them there
  rw [List.perm_iff_count]
  intro id
  simp only [List.count_append]
  omega

theorem GrowsBy.mem_elements {rowIds : List String} {columns : List Column}
    (hgrows : form.GrowsBy rowIds columns next) {element : Element} (helement : element ∈ next.elements) :
    element ∈ form.elements ∨ ∃ column ∈ columns, column.element = element := by
  obtain ⟨column, hcolumn, rfl⟩ := List.mem_map.mp helement
  rcases List.mem_append.mp (hgrows.columns.subset hcolumn) with hnew | hold
  · exact Or.inr ⟨column, hnew, rfl⟩
  · exact Or.inl (List.mem_map_of_mem hold)

/-- The columns follow the rows. -/
theorem GrowsBy.of_rows (rows : List Row) (hsections : next.sections.map (·.id) = form.sections.map (·.id))
    (hrows : next.rows.Subperm (rows ++ form.rows)) :
    form.GrowsBy (rows.map (·.id)) (rows.flatMap (·.columns)) next := by
  refine ⟨hsections, ?_, ?_⟩
  · rw [← List.map_append, List.map_eq_flatMap, List.map_eq_flatMap]
    exact subperm_flatMap hrows fun row => [row.id]
  · have hcolumns := subperm_flatMap hrows (·.columns)
    rw [List.flatMap_append] at hcolumns
    exact hcolumns

/-! ### Parts that are added, moved or deleted -/

theorem growsBy_insertRow {sectionId rowId columnId : String} {index landed : Nat} {element : Element}
    (hinserted : form.insertRow sectionId index rowId columnId element = .ok (landed, next)) :
    form.GrowsBy [rowId] [⟨columnId, .full, element⟩] next := by
  unfold insertRow at hinserted
  split at hinserted
  · split at hinserted
    · rename_i hsections
      cases hinserted
      obtain ⟨before, part, changed, after, hold, hchanged, rfl⟩ := exists_of_updateFirst? hsections
      split at hchanged
      · cases hchanged
        have hlanding : part.landing index ≤ part.rows.length := Nat.min_le_right _ _
        have hrow := List.perm_insertIdx (Row.single rowId columnId element) part.rows hlanding
        refine GrowsBy.of_rows [.single rowId columnId element] ?_ (List.Perm.subperm ?_)
        · simp [hold, withSections, Section.insertRow]
        · have hfront := (hrow.append_right (after.flatMap (·.rows))).append_left (before.flatMap (·.rows))
          simp only [rows, hold, withSections, List.flatMap_append, List.flatMap_cons, Section.insertRow]
          exact hfront.trans List.perm_middle
      · cases hchanged
    · cases hinserted
  · cases hinserted

theorem growsBy_deleteElement (form : Form) (policy : DeletePolicy) (elementId : String) :
    form.GrowsBy [] [] (form.deleteElement policy elementId).2 := by
  have hrows := form.rows_deleteElement policy elementId
  have hkept : (form.rows.filter (!·.isDropped policy elementId)).Sublist form.rows := List.filter_sublist
  refine ⟨?_, List.Sublist.subperm ?_, List.Sublist.subperm ?_⟩
  · simp [deleteElement, withSections, Section.deleteElement_eq]
  · rw [hrows, List.map_map]
    exact hkept.map Row.id
  · rw [columns, hrows, List.flatMap_map]
    exact (List.Sublist.flatMap_right _ fun row _ => List.filter_sublist).trans (hkept.flatMap Row.columns)

theorem growsBy_duplicateElement {elementId newId columnId : String}
    (hcopied : form.duplicateElement elementId newId columnId = .ok next) :
    ∃ column ∈ form.columns,
      form.GrowsBy [] [⟨columnId, column.width, column.element.withId newId⟩] next := by
  unfold duplicateElement at hcopied
  simp only at hcopied
  split at hcopied
  · rename_i hsections
    cases hcopied
    obtain ⟨before, part, changed, after, hold, hchanged, rfl⟩ := exists_of_updateFirst? hsections
    obtain ⟨rows, hrows, rfl⟩ := Option.map_eq_some_iff.mp hchanged
    obtain ⟨above, row, grown, below, habove, hgrown, rfl⟩ := exists_of_updateFirst? hrows
    obtain ⟨columns, hcolumns, rfl⟩ := Option.map_eq_some_iff.mp hgrown
    obtain ⟨column, hmem, hperm⟩ := Row.exists_of_duplicateIn hcolumns
    refine ⟨column, ?_, ?_, List.Perm.subperm ?_, List.Perm.subperm ?_⟩
    · simp only [Form.columns, Form.rows, hold, List.mem_flatMap, List.mem_append, List.mem_cons]
      exact ⟨row, ⟨part, Or.inr (Or.inl rfl), by simp [habove]⟩, hmem⟩
    · simp [hold, withSections]
    · simp [Form.rows, hold, habove, withSections]
    · simp only [Form.columns, Form.rows, hold, habove, withSections, List.flatMap_append, List.flatMap_cons,
        List.append_assoc]
      have hfront := (hperm.append_right (below.flatMap (·.columns) ++
        (after.flatMap (·.rows)).flatMap (·.columns))).append_left
        ((before.flatMap (·.rows)).flatMap (·.columns) ++ above.flatMap (·.columns))
      simp only [List.append_assoc] at hfront
      refine hfront.trans ?_
      rw [List.perm_iff_count]
      intro other
      simp only [List.count_append, List.count_cons, List.count_nil, List.cons_append]
      omega
  · cases hcopied

theorem growsBy_moveRow {rowId : String} {direction : MoveDirection} {moved : Bool}
    (hmoved : form.moveRow rowId direction = .ok (moved, next)) : form.GrowsBy [] [] next := by
  unfold moveRow at hmoved
  split at hmoved
  · rename_i hsections
    cases hmoved
    obtain ⟨before, part, changed, after, hold, hreorders, -, rfl⟩ := Section.exists_of_moveRowIn hsections
    refine GrowsBy.of_rows [] ?_ (List.Perm.subperm ?_)
    · simp [hold, withSections, hreorders.id]
    · simp only [Form.rows, hold, withSections, List.flatMap_append, List.flatMap_cons, List.nil_append]
      exact (hreorders.rows.append_right _).append_left _
  · cases hmoved

/-! ### Elements that are replaced -/

/-- A form whose elements are changed in place. -/
def mapElements (form : Form) (change : Element → Element) : Form :=
  form.withSections (form.sections.map (Section.mapElements change))

theorem elements_mapElements (form : Form) (change : Element → Element) :
    (form.mapElements change).elements = form.elements.map change := by
  simp [elements, columns, rows, mapElements, withSections, Section.mapElements, Row.mapElements,
    List.flatMap_assoc, List.flatMap_map, List.map_flatMap, Function.comp_def]

theorem ids_mapElements (form : Form) {change : Element → Element}
    (hchange : ∀ element, (change element).id = element.id) : (form.mapElements change).ids = form.ids := by
  simp [ids, mapElements, withSections, Section.mapElements, Row.mapElements, List.flatMap_map, hchange]

theorem mapElements_eq_self {change : Element → Element} (hsame : ∀ element ∈ form.elements, change element = element) :
    form.mapElements change = form := by
  have hrow : ∀ row ∈ form.rows, row.mapElements change = row := by
    intro row hrow
    have hcolumns : (row.columns.map fun column => { column with element := change column.element }) = row.columns := by
      refine map_eq_self fun column hcolumn => ?_
      rw [hsame column.element (List.mem_map_of_mem (List.mem_flatMap_of_mem hrow hcolumn))]
    rw [Row.mapElements, hcolumns]
  have hpart : ∀ part ∈ form.sections, part.mapElements change = part := by
    intro part hpart
    have hrows : part.rows.map (Row.mapElements change) = part.rows :=
      map_eq_self fun row hmem => hrow row (List.mem_flatMap_of_mem hpart hmem)
    rw [Section.mapElements, hrows]
  rw [mapElements, map_eq_self hpart, withSections]

/-- A form in which an element has taken the place of all that have its id. -/
def put (form : Form) (element : Element) : Form :=
  form.mapElements fun old => if old.id = element.id then element else old

theorem ids_put (form : Form) (element : Element) : (form.put element).ids = form.ids := by
  refine form.ids_mapElements fun old => ?_
  split
  · rename_i hsame
    exact hsame.symm
  · rfl

theorem mem_elements_put {element other : Element} (hother : other ∈ (form.put element).elements) :
    other = element ∨ other ∈ form.elements := by
  rw [put, elements_mapElements] at hother
  obtain ⟨old, hold, rfl⟩ := List.mem_map.mp hother
  split
  · exact Or.inl rfl
  · exact Or.inr hold

theorem replaces_put (form : Form) (draft : Element) : Replaces draft form (form.put draft) := by
  let change (old : Element) : Element := if old.id = draft.id then draft else old
  have hrow : ∀ row : Row, Row.Replaces draft row (row.mapElements change) := by
    intro row
    exact ⟨rfl, rfl, forall₂_map_iff.mpr fun column _ => ⟨rfl, rfl, rfl⟩⟩
  have hpart : ∀ part : Section, Section.Replaces draft part (part.mapElements change) := by
    intro part
    exact ⟨rfl, rfl, forall₂_map_iff.mpr fun row _ => hrow row⟩
  exact ⟨rfl, rfl, forall₂_map_iff.mpr fun part _ => hpart part⟩

/-- An element that is not there takes no place. -/
theorem put_eq_self {element : Element} (habsent : ∀ other ∈ form.elements, other.id ≠ element.id) :
    form.put element = form :=
  mapElements_eq_self fun other hother => if_neg (habsent other hother)

theorem updateElement_eq_ok {element : Element} (hupdated : form.updateElement element = .ok next) :
    next = form.put element := by
  unfold updateElement at hupdated
  split at hupdated
  · cases hupdated
    rfl
  · cases hupdated

theorem updateElement_eq_error {element : Element} {cause : EditError}
    (hrefused : form.updateElement element = .error cause) : ∀ other ∈ form.elements, other.id ≠ element.id := by
  unfold updateElement at hrefused
  split at hrefused
  · cases hrefused
  · rename_i habsent
    have hnone : form.findElement element.id = none := Option.not_isSome_iff_eq_none.mp habsent
    simpa [findElement] using hnone

end Form

end FormEditor
