import Mathlib.Data.List.Nodup
import FormEditor.Proofs.Editor.Dropping
import FormEditor.Proofs.Editor.Gesture

/-! Drop zones. The zones of a section are told by the number of its rows, one before each row and one after the last,
so every index of a zone is one at which a row can be put in. A section that takes a row in has one zone more
after the ones it had, and the zones of all other sections stay. -/

namespace FormEditor

namespace Section

variable {part : Section}

/-- The drop zones of a section, from the one before its first row to the one after its last. -/
def dropZones (part : Section) : List DropZone :=
  (List.range (part.rows.length + 1)).map (DropZone.mk part.id)

theorem mem_dropZones_iff {zone : DropZone} :
    zone ∈ part.dropZones ↔ part.id = zone.sectionId ∧ zone.rowIndex ≤ part.rows.length := by
  obtain ⟨sectionId, rowIndex⟩ := zone
  simp only [dropZones, List.mem_map, List.mem_range, DropZone.mk.injEq]
  constructor
  · rintro ⟨index, hindex, hid, rfl⟩
    exact ⟨hid, Nat.le_of_lt_succ hindex⟩
  · rintro ⟨hid, hindex⟩
    exact ⟨rowIndex, Nat.lt_succ_of_le hindex, hid, rfl⟩

/-- With one row more there is one zone more, after the zone that was the last. -/
theorem dropZones_of_length {next : Section} (hid : next.id = part.id)
    (hlength : next.rows.length = part.rows.length + 1) :
    next.dropZones = part.dropZones ++ [⟨part.id, part.rows.length + 1⟩] := by
  rw [dropZones, hid, hlength, List.range_succ, List.map_append]
  rfl

theorem dropZones_eq_snoc (part : Section) :
    part.dropZones = (List.range part.rows.length).map (DropZone.mk part.id) ++ [⟨part.id, part.rows.length⟩] := by
  rw [dropZones, List.range_succ, List.map_append]
  rfl

end Section

namespace Form

variable {form : Form} {gap : RowGap} {zone : DropZone}

theorem dropZones_eq (form : Form) : form.dropZones = form.sections.flatMap Section.dropZones :=
  rfl

/-- The zones of a form are those of another one with one zone more: the one after the last zone of a section. -/
def GainsZone (form : Form) (sectionId : String) (next : Form) : Prop :=
  ∃ before last after, form.dropZones = before ++ ⟨sectionId, last⟩ :: after ∧
    (∀ other ∈ after, other.sectionId ≠ sectionId) ∧
    next.dropZones = before ++ ⟨sectionId, last⟩ :: ⟨sectionId, last + 1⟩ :: after

/-- Where no two sections have the same id, a section is found by its id. -/
theorem findSection_of_mem (hdistinct : (form.sections.map (·.id)).Nodup) {part : Section}
    (hpart : part ∈ form.sections) : form.findSection part.id = some part := by
  have hsome : (form.findSection part.id).isSome := List.find?_isSome.mpr ⟨part, hpart, decide_eq_true rfl⟩
  obtain ⟨found, hfound⟩ := Option.isSome_iff_exists.mp hsome
  have hid : found.id = part.id := by simpa using List.find?_some hfound
  rw [hfound, List.inj_on_of_nodup_map hdistinct (List.mem_of_find?_eq_some hfound) hpart hid]

/-- Every zone is one of a section that is there, before one of its rows or after the last. -/
theorem exists_findSection_of_mem_dropZones (hdistinct : (form.sections.map (·.id)).Nodup)
    (hzone : zone ∈ form.dropZones) :
    ∃ part, form.findSection zone.sectionId = some part ∧ zone.rowIndex ≤ part.rows.length := by
  rw [dropZones_eq] at hzone
  obtain ⟨part, hpart, hzone⟩ := List.mem_flatMap.mp hzone
  obtain ⟨hid, hindex⟩ := Section.mem_dropZones_iff.mp hzone
  exact ⟨part, hid ▸ findSection_of_mem hdistinct hpart, hindex⟩

/-- The zones of a form with some rows in a gap: those of the section with the gap, between those of the others. -/
theorem dropZones_gap {rows : List Row} (hsections : form.sections = gap.sections rows) :
    form.dropZones = gap.before.flatMap Section.dropZones ++
      ((gap.part rows).dropZones ++ gap.after.flatMap Section.dropZones) := by
  rw [dropZones_eq, hsections, RowGap.sections, List.flatMap_append, List.flatMap_cons]

/-- No section after a gap has a zone with the id of the section with the gap. -/
theorem sectionId_ne_of_after {rows : List Row} (hdistinct : (form.sections.map (·.id)).Nodup)
    (hsections : form.sections = gap.sections rows) :
    ∀ zone ∈ gap.after.flatMap Section.dropZones, zone.sectionId ≠ gap.id := by
  intro zone hzone
  obtain ⟨part, hpart, hzone⟩ := List.mem_flatMap.mp hzone
  rw [← (Section.mem_dropZones_iff.mp hzone).1]
  rw [hsections, RowGap.sections, List.map_append, List.map_cons] at hdistinct
  have hlater : gap.id ∉ gap.after.map (·.id) := (List.nodup_cons.mp (List.nodup_append.mp hdistinct).2.1).1
  exact fun hsame => hlater (hsame ▸ List.mem_map_of_mem hpart)

/-- A row in a gap is one zone more at the end of its section. -/
theorem gainsZone_gap (hdistinct : (form.sections.map (·.id)).Nodup) (hsections : form.sections = gap.sections [])
    (row : Row) : form.GainsZone gap.id (form.withSections (gap.sections [row])) := by
  have hlength : (gap.part [row]).rows.length = (gap.part []).rows.length + 1 := by
    simp [RowGap.part]
    omega
  have hgrown : (gap.part [row]).dropZones = (gap.part []).dropZones ++ [⟨gap.id, (gap.part []).rows.length + 1⟩] :=
    Section.dropZones_of_length rfl hlength
  have hnext : (form.withSections (gap.sections [row])).dropZones = _ := dropZones_gap rfl
  refine ⟨gap.before.flatMap Section.dropZones ++ (List.range (gap.part []).rows.length).map (DropZone.mk gap.id),
    (gap.part []).rows.length, gap.after.flatMap Section.dropZones, ?_, sectionId_ne_of_after hdistinct hsections, ?_⟩
  · rw [dropZones_gap hsections, Section.dropZones_eq_snoc]
    simp only [List.append_assoc, List.singleton_append]
    rfl
  · rw [hnext, hgrown, Section.dropZones_eq_snoc]
    simp only [List.append_assoc, List.singleton_append]
    rfl

end Form

namespace Drag

variable {form : Form} {zone : DropZone}

/-- A drop on a zone lands at the zone. -/
theorem drop_on_zone (hdistinct : (form.sections.map (·.id)).Nodup) (hzone : zone ∈ form.dropZones) {drag : Drag}
    {data : TransferData} {type : ElementType} (hresolves : drag.Resolves data type) {definition : Definition}
    (hdefined : form.registry.get? type = some definition) (ids : IdSupply) :
    ∃ elementId next rest,
      (drag.drop form ids zone data).2 = .ok (.placed elementId zone.sectionId zone.rowIndex, next, rest) ∧
      form.GainsRow zone zone.rowIndex (.ofDefinition definition type elementId) next ∧
      form.GainsZone zone.sectionId next := by
  obtain ⟨part, hfound, hindex⟩ := Form.exists_findSection_of_mem_dropZones hdistinct hzone
  obtain ⟨gap, hsections, hid, hpart, hfirst, habove, -⟩ := Form.exists_gap_of_findSection hfound zone.rowIndex
  have hlanding : part.landing zone.rowIndex = zone.rowIndex := Nat.min_eq_left hindex
  have hlength : gap.above.length = zone.rowIndex := by
    rw [habove, hlanding, List.length_take_of_le hindex]
  have hgap : (gap.part []).landing zone.rowIndex = gap.above.length := by rw [hpart, hlanding, hlength]
  have hplaced : place form ids zone type = _ := place_gap hdefined hsections hid hfirst hgap
  rw [hlength] at hplaced
  refine ⟨_, _, _, drop_eq_placed_iff.mpr ⟨hfound ▸ rfl, type, hresolves, hplaced⟩, ?_, ?_⟩
  · have hgains := Form.gainsRow_gap hsections hid hfirst hgap
    rw [hlength] at hgains
    exact hgains _ _ _
  · rw [← hid]
    exact Form.gainsZone_gap hdistinct hsections _

/-- **Every drop zone is a landing place.** An editor in which the form is built shows the drop zones of the form, section
by section. If no two sections have the same id, a drop on any of these zones, of any type that has a definition, puts
a row into the section of the zone at the very index of the zone. After that the form has the zones it had and
one more, which comes right after the last one of that section. -/
theorem zones_are_landing_places (form : Form) :
    (∀ editor : Editor, editor.form = form → editor.mode = .editor → ∃ shown, editor.project.view = .form shown ∧
      (shown.sections.flatMap (·.zones)).map (·.zone) = form.dropZones) ∧
    ((form.sections.map (·.id)).Nodup → ∀ zone ∈ form.dropZones, ∀ (drag : Drag) (ids : IdSupply) (data : TransferData)
      (type : ElementType) (definition : Definition),
      drag.Resolves data type → form.registry.get? type = some definition →
      ∃ elementId next rest,
        (drag.drop form ids zone data).2 = .ok (.placed elementId zone.sectionId zone.rowIndex, next, rest) ∧
        form.GainsRow zone zone.rowIndex (.ofDefinition definition type elementId) next ∧
        form.GainsZone zone.sectionId next) := by
  refine ⟨?_, ?_⟩
  · rintro editor rfl hmode
    refine ⟨editor.formView, ?_, ?_⟩
    · simp only [Editor.project, Editor.view, hmode]
    · rw [Editor.zones_formView hmode, List.map_map]
      exact List.map_id _
  · intro hdistinct zone hzone drag ids data type definition hresolves hdefined
    exact drop_on_zone hdistinct hzone hresolves hdefined ids

/-- A text is dragged from the palette to the end of the first of two sections. -/
theorem text_dropped_at_the_end :
    let title : Element := .display ⟨.title, ⟨"a", none, none, none, none⟩, "A"⟩
    let form : Form := ⟨⟨"u", "1", "A"⟩, .builtin, [⟨"s", "S", [.single "r" "c" title]⟩, ⟨"t", "T", []⟩]⟩
    let zone : DropZone := ⟨"s", 1⟩
    form.dropZones = [⟨"s", 0⟩, zone, ⟨"t", 0⟩] ∧
      ∃ elementId next rest,
        (idle.drop form ⟨0⟩ zone (.ofType .text)).2 = .ok (.placed elementId "s" 1, next, rest) ∧
        form.GainsZone "s" next := by
  intro title form zone
  have hzones : form.dropZones = [⟨"s", 0⟩, zone, ⟨"t", 0⟩] := by decide +kernel
  have hzone : zone ∈ form.dropZones := by
    rw [hzones]
    exact List.mem_cons_of_mem _ List.mem_cons_self
  have hdefined : form.registry.get? .text = some (Registry.builtinDefinition .text) := by decide +kernel
  obtain ⟨-, hland⟩ := zones_are_landing_places form
  obtain ⟨elementId, next, rest, hplaced, -, hgains⟩ := hland (by decide +kernel) zone hzone idle ⟨0⟩ (.ofType .text)
    .text _ ((resolves_ofType_iff idle).mpr rfl) hdefined
  exact ⟨hzones, elementId, next, rest, hplaced, hgains⟩

end Drag

end FormEditor
