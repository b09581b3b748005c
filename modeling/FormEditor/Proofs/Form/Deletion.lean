import Mathlib.Data.List.Forall2
import FormEditor.Form.Edit

/-! The deletion of an element. It is to touch the rows that have the element and no others: under the one policy
they go, under the other they go if they have nothing else and lose their columns with the element if they
do. Rows that have no columns at all go too where only columns are deleted, for whatever element, so a deletion
keeps to the rows of its element exactly if there are none of these or the policy is the other one. -/

namespace FormEditor

theorem map_eq_self {α : Type} {items : List α} {change : α → α} (hsame : ∀ item ∈ items, change item = item) :
    items.map change = items :=
  (List.map_congr_left hsame).trans items.map_id

/-- Items stand in a relation to what they are changed into, one by one. -/
theorem forall₂_map_iff {α β : Type} {relation : α → β → Prop} {items : List α} {change : α → β} :
    List.Forall₂ relation items (items.map change) ↔ ∀ item ∈ items, relation item (change item) := by
  rw [List.forall₂_map_right_iff, List.forall₂_same]

namespace Row

/-- Whether a row is to go with an element, since it has it and, where its other columns would stay, has none. -/
def goesWith (policy : DeletePolicy) (elementId : String) (row : Row) : Bool :=
  match policy with
  | .wholeRow => row.holds elementId
  | .columnOnly => row.holds elementId && row.columns.all (·.element.id = elementId)

/-- Whether a row goes, be it only because it has no columns. -/
def isDropped (policy : DeletePolicy) (elementId : String) (row : Row) : Bool :=
  row.goesWith policy elementId || (decide (policy = .columnOnly) && row.columns.isEmpty)

/-- A deletion has nothing to do with a row that neither has the element nor goes for want of columns. -/
structure IsUntouched (policy : DeletePolicy) (elementId : String) (row : Row) : Prop where
  other : row.holds elementId = false
  stays : row.isDropped policy elementId = false

variable {row : Row} {elementId : String} {policy : DeletePolicy}

theorem holds_of_goesWith (hgoes : row.goesWith policy elementId = true) : row.holds elementId = true := by
  cases policy with
  | wholeRow => exact hgoes
  | columnOnly => exact (Bool.and_eq_true_iff.mp hgoes).1

theorem holds_eq_false_iff :
    row.holds elementId = false ↔ ∀ column ∈ row.columns, column.element.id ≠ elementId := by
  simp [holds]

/-- A row has nothing to lose of an element that it does not have. -/
theorem withoutElement_eq_self (hother : row.holds elementId = false) : row.withoutElement elementId = row := by
  have hcolumns : row.columns.filter (·.element.id ≠ elementId) = row.columns := by
    rw [List.filter_eq_self]
    intro column hcolumn
    exact decide_eq_true (holds_eq_false_iff.mp hother column hcolumn)
  rw [withoutElement, hcolumns]

theorem holds_withoutElement (row : Row) (elementId : String) :
    (row.withoutElement elementId).holds elementId = false := by
  rw [holds_eq_false_iff]
  intro column hcolumn
  exact of_decide_eq_true (List.mem_filter.mp hcolumn).2

/-- Where only columns are deleted, the rows go that have none in the end. -/
theorem isDropped_columnOnly (elementId : String) (row : Row) :
    row.isDropped .columnOnly elementId = (row.withoutElement elementId).columns.isEmpty := by
  obtain ⟨_, columns, _⟩ := row
  cases columns with
  | nil => rfl
  | cons first rest =>
      rw [Bool.eq_iff_iff]
      simp only [isDropped, goesWith, holds, withoutElement, decide_true, Bool.true_and, List.isEmpty_cons,
        Bool.or_false, Bool.and_eq_true, List.isEmpty_iff, List.filter_eq_nil_iff, List.all_eq_true,
        decide_eq_true_eq, not_not]
      refine ⟨And.right, fun hall => ⟨?_, hall⟩⟩
      exact List.any_eq_true.mpr ⟨first, List.mem_cons_self, decide_eq_true (hall first List.mem_cons_self)⟩

theorem isDropped_wholeRow (elementId : String) (row : Row) :
    row.isDropped .wholeRow elementId = row.holds elementId := by
  simp [isDropped, goesWith]

theorem isDropped_eq_goesWith_iff :
    row.isDropped policy elementId = row.goesWith policy elementId ↔ policy = .wholeRow ∨ row.columns ≠ [] := by
  obtain ⟨_, columns, _⟩ := row
  cases policy <;> cases columns <;> simp [isDropped, goesWith, holds]

theorem isUntouched_of_holds_eq_false (hother : row.holds elementId = false)
    (hclean : row.isDropped policy elementId = row.goesWith policy elementId) :
    row.IsUntouched policy elementId := by
  refine ⟨hother, ?_⟩
  rw [hclean, Bool.eq_false_iff]
  intro hgoes
  exact Bool.eq_false_iff.mp hother (holds_of_goesWith hgoes)

/-- Rows that are not touched stay, each as it was. -/
theorem kept_eq_self {rows : List Row} (hrows : ∀ row ∈ rows, row.IsUntouched policy elementId) :
    (rows.filter (!·.isDropped policy elementId)).map (withoutElement elementId) = rows := by
  have hfilter : rows.filter (!·.isDropped policy elementId) = rows :=
    List.filter_eq_self.mpr fun row hrow => by simp [(hrows row hrow).stays]
  rw [hfilter]
  exact map_eq_self fun row hrow => withoutElement_eq_self (hrows row hrow).other

theorem countP_isDropped_eq_zero {rows : List Row} (hrows : ∀ row ∈ rows, row.IsUntouched policy elementId) :
    rows.countP (isDropped policy elementId) = 0 :=
  List.countP_eq_zero.mpr fun row hrow => Bool.eq_false_iff.mp (hrows row hrow).stays

end Row

namespace Section

/-- What the deletion of an element is to make of a section. The rows that go with the element are gone, those
that stay have lost it, and those that did not have it are there as they were, in their order. -/
structure Deletes (policy : DeletePolicy) (elementId : String) (old new : Section) : Prop where
  id : new.id = old.id
  title : new.title = old.title
  rows : new.rows = (old.rows.filter (!·.goesWith policy elementId)).map (Row.withoutElement elementId)
  others : (old.rows.filter (!·.holds elementId)).Sublist new.rows

variable {part : Section} {elementId : String} {policy : DeletePolicy}

theorem map_withoutElement_others (elementId : String) (rows : List Row) :
    (rows.filter (!·.holds elementId)).map (Row.withoutElement elementId) = rows.filter (!·.holds elementId) := by
  refine map_eq_self fun row hrow => ?_
  apply Row.withoutElement_eq_self
  simpa using (List.mem_filter.mp hrow).2

/-- The rows that stay, for both policies alike. -/
theorem deleteElement_eq (policy : DeletePolicy) (elementId : String) (part : Section) :
    part.deleteElement policy elementId =
      { part with
        rows := (part.rows.filter (!·.isDropped policy elementId)).map (Row.withoutElement elementId) } := by
  cases policy with
  | wholeRow => simp only [deleteElement, Row.isDropped_wholeRow, map_withoutElement_others]
  | columnOnly =>
      simp only [deleteElement, List.filter_map, Row.isDropped_columnOnly]
      rfl

theorem map_deleteElement_eq_self {parts : List Section}
    (hrows : ∀ row ∈ parts.flatMap (·.rows), row.IsUntouched policy elementId) :
    parts.map (deleteElement policy elementId) = parts := by
  refine map_eq_self fun part hpart => ?_
  rw [deleteElement_eq, Row.kept_eq_self fun row hrow => hrows row (List.mem_flatMap_of_mem hpart hrow)]

theorem deletes_of_rows {new : Section} (hid : new.id = part.id) (htitle : new.title = part.title)
    (hrows : new.rows = (part.rows.filter (!·.goesWith policy elementId)).map (Row.withoutElement elementId)) :
    part.Deletes policy elementId new := by
  refine ⟨hid, htitle, hrows, ?_⟩
  have hothers : (part.rows.filter (!·.holds elementId)).Sublist (part.rows.filter (!·.goesWith policy elementId)) := by
    apply List.monotone_filter_right
    intro row hother
    cases hgoes : row.goesWith policy elementId with
    | false => rfl
    | true => simp [Row.holds_of_goesWith hgoes] at hother
  rw [hrows, ← map_withoutElement_others]
  exact hothers.map _

end Section

namespace Form

/-- What the deletion of an element is to do to a form, section by section. It says how many rows went with the
element, and an id that no element has is no deletion at all. -/
structure Deletes (form : Form) (policy : DeletePolicy) (elementId : String) (removed : Nat) (next : Form) :
    Prop where
  config : next.config = form.config
  registry : next.registry = form.registry
  sections : List.Forall₂ (Section.Deletes policy elementId) form.sections next.sections
  gone : ∀ element ∈ next.elements, element.id ≠ elementId
  count : removed = form.rows.countP (Row.goesWith policy elementId)
  unknown : (∀ element ∈ form.elements, element.id ≠ elementId) → removed = 0 ∧ next = form

variable {form : Form} {policy : DeletePolicy} {elementId : String}

theorem rows_deleteElement (form : Form) (policy : DeletePolicy) (elementId : String) :
    (form.deleteElement policy elementId).2.rows =
      (form.rows.filter (!·.isDropped policy elementId)).map (Row.withoutElement elementId) := by
  simp only [rows, deleteElement, withSections, Section.deleteElement_eq, List.flatMap_map, List.filter_flatMap,
    List.map_flatMap]

theorem removed_deleteElement (form : Form) (policy : DeletePolicy) (elementId : String) :
    (form.deleteElement policy elementId).1 = form.rows.countP (Row.isDropped policy elementId) := by
  have hrest : (form.deleteElement policy elementId).2.rows.length =
      (form.rows.filter (!·.isDropped policy elementId)).length := by
    rw [rows_deleteElement, List.length_map]
  have hboth := form.rows.length_eq_length_filter_add (Row.isDropped policy elementId)
  calc (form.deleteElement policy elementId).1
      = form.rows.length - (form.deleteElement policy elementId).2.rows.length := rfl
    _ = (form.rows.filter (Row.isDropped policy elementId)).length := by omega
    _ = form.rows.countP (Row.isDropped policy elementId) := List.countP_eq_length_filter.symm

theorem gone_deleteElement (form : Form) (policy : DeletePolicy) (elementId : String) :
    ∀ element ∈ (form.deleteElement policy elementId).2.elements, element.id ≠ elementId := by
  intro element helement
  obtain ⟨column, hcolumn, rfl⟩ := List.mem_map.mp helement
  obtain ⟨row, hrow, hcolumn⟩ := List.mem_flatMap.mp hcolumn
  rw [rows_deleteElement] at hrow
  obtain ⟨old, -, rfl⟩ := List.mem_map.mp hrow
  exact Row.holds_eq_false_iff.mp (old.holds_withoutElement elementId) column hcolumn

theorem holds_eq_false_of_absent (hunknown : ∀ element ∈ form.elements, element.id ≠ elementId) :
    ∀ row ∈ form.rows, row.holds elementId = false := by
  intro row hrow
  rw [Row.holds_eq_false_iff]
  intro column hcolumn
  exact hunknown column.element (List.mem_map_of_mem (List.mem_flatMap_of_mem hrow hcolumn))

/-- Where no row goes but with the element, an id that no element has changes nothing. -/
theorem deleteElement_eq_self
    (hclean : ∀ row ∈ form.rows, row.isDropped policy elementId = row.goesWith policy elementId)
    (hunknown : ∀ element ∈ form.elements, element.id ≠ elementId) :
    form.deleteElement policy elementId = (0, form) := by
  have hrows : ∀ row ∈ form.rows, row.IsUntouched policy elementId := fun row hrow =>
    Row.isUntouched_of_holds_eq_false (holds_eq_false_of_absent hunknown row hrow) (hclean row hrow)
  refine Prod.ext ?_ ?_
  · rw [removed_deleteElement, Row.countP_isDropped_eq_zero hrows]
  · show form.withSections (form.sections.map (Section.deleteElement policy elementId)) = form
    rw [Section.map_deleteElement_eq_self hrows, withSections]

theorem deletes_deleteElement
    (hclean : ∀ row ∈ form.rows, row.isDropped policy elementId = row.goesWith policy elementId) :
    form.Deletes policy elementId (form.deleteElement policy elementId).1
      (form.deleteElement policy elementId).2 where
  config := rfl
  registry := rfl
  sections := by
    refine forall₂_map_iff.mpr fun part hpart => ?_
    rw [Section.deleteElement_eq]
    refine Section.deletes_of_rows rfl rfl (congrArg (List.map _) (List.filter_congr fun row hrow => ?_))
    rw [hclean row (List.mem_flatMap_of_mem hpart hrow)]
  gone := form.gone_deleteElement policy elementId
  count := by
    rw [removed_deleteElement]
    refine List.countP_congr fun row hrow => ?_
    rw [hclean row hrow]
  unknown := fun hunknown => by
    rw [deleteElement_eq_self hclean hunknown]
    exact ⟨rfl, rfl⟩

/-- A row that a deletion is not to touch is not dropped by it. -/
theorem Deletes.columns_ne_nil
    (hdeletes : form.Deletes .columnOnly elementId (form.deleteElement .columnOnly elementId).1
      (form.deleteElement .columnOnly elementId).2) : ∀ row ∈ form.rows, row.columns ≠ [] := by
  intro row hrow hnone
  obtain ⟨part, hpart, hrow⟩ := List.mem_flatMap.mp hrow
  -- the row has no element, so it is among the others of its section, but no row without columns stays
  have hsections := forall₂_map_iff.mp hdeletes.sections
  have hother : row ∈ part.rows.filter (!·.holds elementId) :=
    List.mem_filter.mpr ⟨hrow, by simp [Row.holds, hnone]⟩
  have hstays := (hsections part hpart).others.subset hother
  have hsome := (List.mem_filter.mp hstays).2
  simp [hnone] at hsome

/-- **A deletion keeps to the rows of its element unless a row has no columns.** No element has the id any more, what
is left of a section are the rows that do not go, in their order and without the element, and the deletion
counts the rows that go. These are the rows it is to take exactly if whole rows are deleted or no row of the
form is without columns: otherwise the rows without columns go as well and are counted, though they have no
element at all, and also for an id that no element has. -/
theorem deletion_keeps_to_its_rows_iff (form : Form) (policy : DeletePolicy) (elementId : String) :
    let removed := (form.deleteElement policy elementId).1
    let next := (form.deleteElement policy elementId).2
    (∀ element ∈ next.elements, element.id ≠ elementId) ∧
    next = form.withSections (form.sections.map fun part =>
      { part with
        rows := (part.rows.filter (!·.isDropped policy elementId)).map (Row.withoutElement elementId) }) ∧
    removed = form.rows.countP (Row.isDropped policy elementId) ∧
    (form.Deletes policy elementId removed next ↔
      policy = .wholeRow ∨ ∀ row ∈ form.rows, row.columns ≠ []) := by
  intro removed next
  refine ⟨form.gone_deleteElement policy elementId, ?_, form.removed_deleteElement policy elementId, ?_, ?_⟩
  · exact congrArg form.withSections (List.map_congr_left fun part _ => part.deleteElement_eq policy elementId)
  · intro hdeletes
    cases policy with
    | wholeRow => exact Or.inl rfl
    | columnOnly => exact Or.inr hdeletes.columns_ne_nil
  · intro hclean
    refine deletes_deleteElement fun row hrow => Row.isDropped_eq_goesWith_iff.mpr ?_
    exact hclean.imp_right fun hcolumns => hcolumns row hrow

/-- A row without columns is lost to the deletion of an id that no element has. -/
theorem empty_row_swept_away :
    let form : Form := ⟨⟨"u", "1", "A"⟩, .builtin, [⟨"s", "S", [⟨"r", [], none⟩]⟩]⟩
    (∀ element ∈ form.elements, element.id ≠ "ghost") ∧
      (form.deleteElement .columnOnly "ghost").1 = 1 ∧ (form.deleteElement .columnOnly "ghost").2 ≠ form := by
  decide +kernel

end Form

end FormEditor
