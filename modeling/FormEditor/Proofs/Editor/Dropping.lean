import FormEditor.Proofs.Editor.Failure
import FormEditor.Proofs.Form.Defaults
import FormEditor.Proofs.Form.Gap

/-! Drops that put something into the form. A drop on a section that is there, of a type that has a definition, opens
the rows of the section at the index of its zone, or after the last of them, and puts one row in. Nothing
else has the id of the new element as long as the supply makes none that is in use, so to delete the element
is to undo the drop. -/

namespace FormEditor

theorem insertIdx_append {α : Type} (above below : List α) (item : α) :
    (above ++ below).insertIdx above.length item = above ++ item :: below := by
  induction above with
  | nil => rfl
  | cons first above ih => rw [List.cons_append, List.length_cons, List.insertIdx_succ_cons, ih, List.cons_append]

namespace Form

/-- A form has one row more: a row without a condition that has one column, of full width, with an element in it.
It is in the first section with the id of a zone, at the index of the zone or after the last row. -/
def GainsRow (form : Form) (zone : DropZone) (landed : Nat) (element : Element) (next : Form) : Prop :=
  ∃ before part after rowId columnId,
    form.sections = before ++ part :: after ∧ part.id = zone.sectionId ∧
    (∀ other ∈ before, other.id ≠ zone.sectionId) ∧ landed = min zone.rowIndex part.rows.length ∧
    next = form.withSections (before ++ { part with
      rows := part.rows.take landed ++ ⟨rowId, [⟨columnId, .full, element⟩], none⟩ :: part.rows.drop landed } :: after)

variable {form : Form} {gap : RowGap} {sectionId : String} {part : Section} {index : Nat}

/-- The rows of a section that is found open where a row lands. -/
theorem exists_gap_of_findSection (hfound : form.findSection sectionId = some part) (index : Nat) :
    ∃ gap : RowGap, form.sections = gap.sections [] ∧ gap.id = sectionId ∧ gap.part [] = part ∧
      (∀ other ∈ gap.before, other.id ≠ sectionId) ∧ gap.above = part.rows.take (part.landing index) ∧
      gap.below = part.rows.drop (part.landing index) := by
  obtain ⟨hid, before, after, hsections, hbefore⟩ := List.find?_eq_some_iff_append.mp hfound
  let landing := part.landing index
  have hpart : RowGap.part ⟨before, part.id, part.title, part.rows.take landing, part.rows.drop landing, after⟩ [] =
      part := by
    rw [RowGap.part, List.append_nil, List.take_append_drop]
  refine ⟨_, ?_, of_decide_eq_true hid, hpart, ?_, rfl, rfl⟩
  · rw [RowGap.sections, hpart]
    exact hsections
  · exact fun other hother => by simpa using hbefore other hother

theorem insertRow_gap (hsections : form.sections = gap.sections []) (hfirst : ∀ other ∈ gap.before, other.id ≠ gap.id)
    (hlanding : (gap.part []).landing index = gap.above.length) (rowId columnId : String) (element : Element) :
    form.insertRow gap.id index rowId columnId element =
      .ok (gap.above.length, form.withSections (gap.sections [.single rowId columnId element])) := by
  have hfound : form.findSection gap.id = some (gap.part []) := by
    rw [findSection, List.find?_eq_some_iff_append]
    refine ⟨decide_eq_true rfl, gap.before, gap.after, hsections, fun other hother => ?_⟩
    simpa using hfirst other hother
  have hpart : (gap.part []).insertRow index (.single rowId columnId element) =
      gap.part [.single rowId columnId element] := by
    rw [Section.insertRow, hlanding]
    simp only [RowGap.part, List.append_nil, insertIdx_append, List.append_assoc, List.singleton_append]
  have hupdated : updateFirst?
      (fun part => if part.id = gap.id then some (part.insertRow index (.single rowId columnId element)) else none)
      form.sections = some (gap.sections [.single rowId columnId element]) := by
    rw [hsections, RowGap.sections, RowGap.sections, ← hpart]
    exact updateFirst?_append (fun other hother => if_neg (hfirst other hother)) (if_pos rfl)
  rw [insertRow, hfound]
  simp only [hupdated, hlanding]
  rfl

theorem gainsRow_gap {zone : DropZone} (hsections : form.sections = gap.sections []) (hid : gap.id = zone.sectionId)
    (hfirst : ∀ other ∈ gap.before, other.id ≠ zone.sectionId)
    (hlanding : (gap.part []).landing zone.rowIndex = gap.above.length) (rowId columnId : String) (element : Element) :
    form.GainsRow zone gap.above.length element (form.withSections (gap.sections [.single rowId columnId element])) := by
  have hrows : (gap.part []).rows = gap.above ++ gap.below := by rw [RowGap.part, List.append_nil]
  refine ⟨gap.before, gap.part [], gap.after, rowId, columnId, hsections, hid, hfirst, hlanding.symm, ?_⟩
  rw [hrows, List.take_left, List.drop_left]
  simp only [RowGap.sections, RowGap.part, Row.single, List.append_assoc, List.singleton_append]

/-- A row of its own goes with its element, and with it goes all that was put in. -/
theorem deleteElement_of_gained {element : Element} (hsections : form.sections = gap.sections [])
    (hunknown : ∀ other ∈ form.elements, other.id ≠ element.id) (rowId columnId : String) :
    (form.withSections (gap.sections [.single rowId columnId element])).deleteElement .wholeRow element.id =
      (1, form) := by
  have hform := withSections_eq_self hsections
  have haround : ∀ row ∈ gap.around, row.IsUntouched .wholeRow element.id := by
    intro row hrow
    have hmem := (mem_rows_gap hsections).mpr (Or.inr hrow)
    refine Row.isUntouched_of_holds_eq_false (holds_eq_false_of_absent hunknown row hmem) ?_
    exact Row.isDropped_eq_goesWith_iff.mpr (Or.inl rfl)
  have hdropped : (Row.single rowId columnId element).isDropped .wholeRow element.id = true := by
    rw [Row.isDropped_wholeRow, Row.holds, Row.single]
    simp
  rw [deleteElement_gap form haround]
  simp only [List.countP_singleton, List.filter_cons, List.filter_nil, hdropped, if_true, Bool.not_true,
    Bool.false_eq_true, if_false, List.map_nil, hform]

end Form

namespace Drag

variable {drag : Drag} {form next : Form} {ids rest : IdSupply} {zone : DropZone} {data : TransferData}
  {type : ElementType} {definition : Definition} {gap : RowGap} {elementId sectionId : String} {landed : Nat}

theorem place_gap (hdefined : form.registry.get? type = some definition) (hsections : form.sections = gap.sections [])
    (hid : gap.id = zone.sectionId) (hfirst : ∀ other ∈ gap.before, other.id ≠ zone.sectionId)
    (hlanding : (gap.part []).landing zone.rowIndex = gap.above.length) :
    place form ids zone type =
      .ok (.placed (IdSupply.id type.tag ids.next) zone.sectionId gap.above.length,
        form.withSections (gap.sections [.single (IdSupply.id "row" (ids.next + 1)) (IdSupply.id "col" (ids.next + 2))
          (.ofDefinition definition type (IdSupply.id type.tag ids.next))]), ⟨ids.next + 3⟩) := by
  rw [← hid] at hfirst ⊢
  simp only [place, Form.create, Form.newElement, Form.insert, IdSupply.take, Registry.get, hdefined, ← hid,
    bind, Except.bind, pure, Except.pure, Option.elim, Form.insertRow_gap hsections hfirst hlanding,
    Element.id_ofDefinition]

/-- A section that is there takes in an element of every type that has a definition. -/
theorem exists_place (hfresh : ids.IsFreshFor form) (hsection : (form.findSection zone.sectionId).isSome)
    (hdefined : form.registry.get? type = some definition) :
    ∃ elementId landed next rest,
      place form ids zone type = .ok (.placed elementId zone.sectionId landed, next, rest) ∧
      form.GainsRow zone landed (.ofDefinition definition type elementId) next ∧
      next.deleteElement .wholeRow elementId = (1, form) := by
  obtain ⟨part, hfound⟩ := Option.isSome_iff_exists.mp hsection
  obtain ⟨gap, hsections, hid, hpart, hfirst, habove, -⟩ := Form.exists_gap_of_findSection hfound zone.rowIndex
  have hlanding : (gap.part []).landing zone.rowIndex = gap.above.length := by
    rw [hpart, habove, List.length_take]
    exact (Nat.min_eq_left (Nat.min_le_right _ _)).symm
  let elementId := IdSupply.id type.tag ids.next
  let element := Element.ofDefinition definition type elementId
  have helement : element.id = elementId := Element.id_ofDefinition definition type elementId
  have habsent : ∀ other ∈ form.elements, other.id ≠ element.id := by
    rw [helement]
    exact Form.absent_of_isFreshFor hfresh type.tag
  have hundone := Form.deleteElement_of_gained hsections habsent
  rw [helement] at hundone
  exact ⟨elementId, _, _, _, place_gap hdefined hsections hid hfirst hlanding,
    Form.gainsRow_gap hsections hid hfirst hlanding _ _ element, hundone _ _⟩

theorem isSome_of_place {outcome : DropOutcome × Form × IdSupply} (hplaced : place form ids zone type = .ok outcome) :
    (form.registry.get? type).isSome := by
  obtain ⟨made, hcreated, -⟩ := eq_ok_of_bind hplaced
  rw [Option.isSome_iff_ne_none]
  intro hnone
  have hlacks := (Form.create_eq_error_iff ids).mpr (show form.registry.Lacks type _ from ⟨hnone, rfl⟩)
  rw [hlacks] at hcreated
  cases hcreated

/-- Something is placed if there are a section and a type for it. -/
theorem drop_eq_placed_iff :
    (drag.drop form ids zone data).2 = .ok (.placed elementId sectionId landed, next, rest) ↔
      (form.findSection zone.sectionId).isSome ∧ ∃ type, drag.Resolves data type ∧
        place form ids zone type = .ok (.placed elementId sectionId landed, next, rest) := by
  refine ⟨fun hdropped => ?_, ?_⟩
  · obtain ⟨type, htype, hdropped⟩ := eq_ok_of_bind hdropped
    cases type with
    | none => cases hdropped
    | some type =>
        cases hsection : form.findSection zone.sectionId with
        | none => simp [hsection, pure, Except.pure] at hdropped
        | some part =>
            simp only [hsection, Option.isNone_some, Bool.false_eq_true, if_false] at hdropped
            exact ⟨rfl, type, dropType_eq_some_iff.mp htype, hdropped⟩
  · rintro ⟨hsection, type, hresolves, hplaced⟩
    rw [drop]
    simp only [dropType_eq_some_iff.mpr hresolves, bind, Except.bind, Option.isNone_eq_false_iff.mpr hsection,
      Bool.false_eq_true, if_false]
    exact hplaced

/-- **A drop puts one row in, and to delete its element takes it out again.** Let the supply make no id that is in use.
Something is placed if and only if the section of the zone is there and the drop is of a type that has a
definition. Then the rows of the first section with the id are open where the zone is, or after the last of
them, and one row was put in: without a condition, with one column of full width that has a new element of
the type. Everything else is as it was, and the form is as it was when the element is deleted. A drop
outside all zones is one at the end of the first section. -/
theorem drop_gains_one_row (drag : Drag) {form : Form} {ids : IdSupply} (hfresh : ids.IsFreshFor form)
    (zone : DropZone) (data : TransferData) :
    ((∃ elementId sectionId landed next rest,
        (drag.drop form ids zone data).2 = .ok (.placed elementId sectionId landed, next, rest)) ↔
      (form.findSection zone.sectionId).isSome ∧
        ∃ type, drag.Resolves data type ∧ (form.registry.get? type).isSome) ∧
    (∀ elementId sectionId landed next rest,
      (drag.drop form ids zone data).2 = .ok (.placed elementId sectionId landed, next, rest) →
        sectionId = zone.sectionId ∧
        (∃ type definition element, drag.Resolves data type ∧ form.registry.get? type = some definition ∧
          element.id = elementId ∧ element.HasDefaults definition type ∧
          form.GainsRow zone landed element next) ∧
        next.deleteElement .wholeRow elementId = (1, form)) ∧
    ∀ first others, form.sections = first :: others →
      drag.dropOnCanvas form ids data = drag.drop form ids ⟨first.id, first.rows.length⟩ data := by
  refine ⟨⟨?_, ?_⟩, ?_, ?_⟩
  · rintro ⟨elementId, sectionId, landed, next, rest, hdropped⟩
    obtain ⟨hsection, type, hresolves, hplaced⟩ := drop_eq_placed_iff.mp hdropped
    exact ⟨hsection, type, hresolves, isSome_of_place hplaced⟩
  · rintro ⟨hsection, type, hresolves, hdefined⟩
    obtain ⟨definition, hdefined⟩ := Option.isSome_iff_exists.mp hdefined
    obtain ⟨elementId, landed, next, rest, hplaced, -, -⟩ := exists_place hfresh hsection hdefined
    exact ⟨elementId, _, landed, next, rest, drop_eq_placed_iff.mpr ⟨hsection, type, hresolves, hplaced⟩⟩
  · intro elementId sectionId landed next rest hdropped
    obtain ⟨hsection, type, hresolves, hplaced⟩ := drop_eq_placed_iff.mp hdropped
    obtain ⟨definition, hdefined⟩ := Option.isSome_iff_exists.mp (isSome_of_place hplaced)
    obtain ⟨_, _, _, _, hplace, hgains, hundone⟩ := exists_place hfresh hsection hdefined
    cases hplace.symm.trans hplaced
    have hdefaults := Element.hasDefaults_ofDefinition definition type elementId
    exact ⟨rfl, ⟨type, definition, _, hresolves, hdefined, Element.id_ofDefinition _ _ _, hdefaults, hgains⟩, hundone⟩
  · intro first others hsections
    rw [dropOnCanvas, hsections]

/-- A title is dropped between the two rows of a section, by data that name its type in plain text only. -/
theorem title_dropped_between_rows :
    let field (id : String) : Element := .input ⟨.text, ⟨id, none, none, none, none⟩, "L", none, none, none, none⟩
    let title : Element := .display ⟨.title, ⟨IdSupply.id "title" 0, none, none, none, none⟩, "New Title"⟩
    let withRows (rows : List Row) : Form :=
      { Form.blank "u" with sections := [⟨"s", "S", []⟩, ⟨"t", "T", rows⟩] }
    let above : Row := .single "r" "c" (field "a")
    let below : Row := .single "q" "d" (field "b")
    let added : Row := .single (IdSupply.id "row" 1) (IdSupply.id "col" 2) title
    let data : TransferData :=
      (Dictionary.empty.insert TransferData.typeSlot "  ").insert TransferData.textSlot " title "
    (⟨0⟩ : IdSupply).IsFreshFor (withRows [above, below]) ∧
    (idle.drop (withRows [above, below]) ⟨0⟩ ⟨"t", 1⟩ data).2 =
      .ok (.placed (IdSupply.id "title" 0) "t" 1, withRows [above, added, below], ⟨3⟩) ∧
    (withRows [above, added, below]).deleteElement .wholeRow (IdSupply.id "title" 0) =
      (1, withRows [above, below]) := by
  intro field title withRows above below added data
  have hfresh : (⟨0⟩ : IdSupply).IsFreshFor (withRows [above, below]) :=
    IdSupply.isFreshFor_of_length_le (by decide +kernel) _
  have hdropped : (idle.drop (withRows [above, below]) ⟨0⟩ ⟨"t", 1⟩ data).2 =
      .ok (.placed (IdSupply.id "title" 0) "t" 1, withRows [above, added, below], ⟨3⟩) := by decide +kernel
  obtain ⟨-, hgains, -⟩ := drop_gains_one_row idle hfresh ⟨"t", 1⟩ data
  exact ⟨hfresh, hdropped, (hgains _ _ _ _ _ hdropped).2.2⟩

end Drag

end FormEditor
