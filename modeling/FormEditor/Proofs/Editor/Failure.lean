import Mathlib.Control.Monad.Basic
import FormEditor.Pattern.Standard
import FormEditor.Proofs.Editor.Report
import FormEditor.Proofs.Form.Morphing
import FormEditor.Proofs.Result

/-! How operations fail. The only cause of a failure is a type that is not known: the data of a drop names
none, or the registry of the form has no definition of it. What is not there any more, a section, an element or
a record, is passed over. In either case the operation changes nothing. -/

namespace FormEditor

/-- A registry has no definition of a type, which is the cause of a failure. -/
def Registry.Lacks (registry : Registry) (type : ElementType) (cause : EditError) : Prop :=
  registry.get? type = none ∧ cause = .unknownType type.tag

/-- The data of a drop has a tag of no type, which is the cause of a failure. -/
def TransferData.Misnames (data : TransferData) (cause : EditError) : Prop :=
  ∃ tag, elementTag? data = some tag ∧ ElementType.ofTag? tag = none ∧ cause = .unknownType tag

/-- The type of a drop is the one of the tag of its data. Without a tag it is the one that is dragged. -/
def Drag.Resolves (drag : Drag) (data : TransferData) (type : ElementType) : Prop :=
  match TransferData.elementTag? data with
  | some tag => ElementType.ofTag? tag = some type
  | none => drag.dragging = some type

theorem Registry.Lacks.ne_missingTarget {registry : Registry} {type : ElementType} {cause : EditError}
    (hlacks : registry.Lacks type cause) (kind : TargetKind) (id : String) : cause ≠ .missingTarget kind id := by
  rw [hlacks.2]
  nofun

theorem TransferData.Misnames.ne_missingTarget {data : TransferData} {cause : EditError}
    (hmisnames : data.Misnames cause) (kind : TargetKind) (id : String) : cause ≠ .missingTarget kind id := by
  obtain ⟨tag, -, -, rfl⟩ := hmisnames
  nofun

theorem Registry.get_eq_error_iff {registry : Registry} {type : ElementType} {cause : EditError} :
    registry.get type = .error cause ↔ registry.Lacks type cause := by
  unfold Registry.get Lacks
  cases registry.get? type with
  | none => simp [throw, throwThe, MonadExceptOf.throw, eq_comm]
  | some definition => simp [pure, Except.pure]

theorem ElementType.ofName_of_none {tag : String} (hnone : ofTag? tag = none) :
    ofName tag = .error (.unknownType tag) := by
  rw [ofName, hnone]
  rfl

theorem ElementType.ofName_of_some {tag : String} {type : ElementType} (hsome : ofTag? tag = some type) :
    ofName tag = .ok type := by
  rw [ofName, hsome]
  rfl

theorem TransferData.elementTag?_ofType (type : ElementType) : elementTag? (ofType type) = some type.tag := by
  have hall : ∀ type ∈ ElementType.all, elementTag? (ofType type) = some type.tag := by decide +kernel
  exact hall type (ElementType.mem_all type)

/-- A drag from the palette names a type. -/
theorem TransferData.not_misnames_ofType (type : ElementType) (cause : EditError) :
    ¬(ofType type).Misnames cause := by
  rintro ⟨tag, htag, hnone, -⟩
  cases (elementTag?_ofType type).symm.trans htag
  cases hnone.symm.trans (ElementType.ofTag?_tag type)

theorem Drag.resolves_ofType_iff (drag : Drag) {type other : ElementType} :
    drag.Resolves (.ofType type) other ↔ other = type := by
  simp only [Resolves, TransferData.elementTag?_ofType, ElementType.ofTag?_tag, Option.some_inj]
  exact eq_comm

/-! ### New elements -/

namespace Form

variable {form : Form} {ids : IdSupply} {type : ElementType} {cause : EditError}

theorem create_eq_error_iff (ids : IdSupply) : form.create ids type = .error cause ↔ form.registry.Lacks type cause := by
  rw [← Registry.get_eq_error_iff]
  cases hget : form.registry.get type with
  | error other => simp [create, newElement, hget, bind, Except.bind]
  | ok definition => simp [create, newElement, hget, bind, Except.bind, pure, Except.pure]

/-- A row can be put into every section that is there. -/
theorem exists_insert {sectionId : String} (hsection : (form.findSection sectionId).isSome) (ids : IdSupply)
    (index : Nat) (element : Element) : ∃ result, form.insert ids sectionId index element = .ok result := by
  obtain ⟨part, hpart⟩ := Option.isSome_iff_exists.mp hsection
  have hid : part.id = sectionId := by simpa using List.find?_some hpart
  have hupdated : ∀ row : Row, (updateFirst?
      (fun part => if part.id = sectionId then some (part.insertRow index row) else none)
      form.sections).isSome := fun row =>
    isSome_updateFirst?_iff.mpr ⟨part, List.mem_of_find?_eq_some hpart, by rw [if_pos hid]; rfl⟩
  obtain ⟨sections, hsections⟩ := Option.isSome_iff_exists.mp
    (hupdated (.single (IdSupply.id "row" ids.next) (IdSupply.id "col" (ids.next + 1)) element))
  refine ⟨(part.landing index, form.withSections sections, ⟨ids.next + 1 + 1⟩), ?_⟩
  simp [insert, insertRow, IdSupply.take, hpart, hsections, bind, Except.bind, pure, Except.pure]

end Form

/-! ### Drops -/

namespace Drag

variable {drag : Drag} {data : TransferData} {form : Form} {ids : IdSupply} {zone : DropZone}
  {type : ElementType} {cause : EditError}

theorem dropType_eq_error_iff : drag.dropType data = .error cause ↔ TransferData.Misnames data cause := by
  unfold TransferData.Misnames
  cases htag : TransferData.elementTag? data with
  | none => simp [dropType, htag, pure, Except.pure]
  | some tag =>
      cases htype : ElementType.ofTag? tag with
      | none => simp [dropType, htag, ElementType.ofName_of_none htype, htype, eq_comm]
      | some type => simp [dropType, htag, ElementType.ofName_of_some htype, htype]

theorem dropType_eq_some_iff : drag.dropType data = .ok (some type) ↔ drag.Resolves data type := by
  unfold Resolves
  cases htag : TransferData.elementTag? data with
  | none => simp [dropType, htag, pure, Except.pure]
  | some tag =>
      cases htype : ElementType.ofTag? tag with
      | none => simp [dropType, htag, ElementType.ofName_of_none htype, htype]
      | some other => simp [dropType, htag, ElementType.ofName_of_some htype, htype]

/-- In a section that is there, only the definition can be missing. -/
theorem place_eq_error_iff (hsection : (form.findSection zone.sectionId).isSome) :
    place form ids zone type = .error cause ↔ form.registry.Lacks type cause := by
  rw [← Form.create_eq_error_iff ids, place, bind_eq_error_iff]
  refine ⟨fun hcases => hcases.resolve_right ?_, Or.inl⟩
  rintro ⟨⟨element, made⟩, -, hinserted⟩
  obtain ⟨⟨index, next, used⟩, hinsert⟩ := Form.exists_insert hsection made zone.rowIndex element
  simp [hinsert, bind, Except.bind, pure, Except.pure] at hinserted

theorem drop_eq_error_iff (ids : IdSupply) :
    (drag.drop form ids zone data).2 = .error cause ↔
      TransferData.Misnames data cause ∨ (form.findSection zone.sectionId).isSome ∧
        ∃ type, drag.Resolves data type ∧ form.registry.Lacks type cause := by
  rw [drop, bind_eq_error_iff, dropType_eq_error_iff]
  refine or_congr_right ⟨?_, ?_⟩
  · rintro ⟨type, htype, hfailed⟩
    cases type with
    | none => cases hfailed
    | some type =>
        cases hsection : form.findSection zone.sectionId with
        | none => simp [hsection, pure, Except.pure] at hfailed
        | some part =>
            have hsome : (form.findSection zone.sectionId).isSome := by rw [hsection]; rfl
            simp only [hsection, Option.isNone_some, Bool.false_eq_true, if_false] at hfailed
            exact ⟨rfl, type, dropType_eq_some_iff.mp htype, (place_eq_error_iff hsome).mp hfailed⟩
  · rintro ⟨hsome, type, hresolves, hlacks⟩
    refine ⟨some type, dropType_eq_some_iff.mpr hresolves, ?_⟩
    simp only [Option.isNone_eq_false_iff.mpr hsome, Bool.false_eq_true, if_false]
    exact (place_eq_error_iff hsome).mpr hlacks

/-- A drop outside all zones has the first section for its own, which is always there. -/
theorem dropOnCanvas_eq_error_iff (ids : IdSupply) :
    (drag.dropOnCanvas form ids data).2 = .error cause ↔
      form.sections ≠ [] ∧ (TransferData.Misnames data cause ∨
        ∃ type, drag.Resolves data type ∧ form.registry.Lacks type cause) := by
  unfold dropOnCanvas
  cases hsections : form.sections with
  | nil => simp [pure, Except.pure]
  | cons first rest =>
      have hsome : (form.findSection first.id).isSome := by
        rw [Form.findSection, hsections, List.find?_cons_of_pos (by simp)]
        rfl
      simp [drop_eq_error_iff, hsome]

end Drag

/-! ### Other types -/

namespace Form

variable {form : Form} {elementId : String} {element : Element} {type : ElementType} {cause : EditError}

theorem morph_eq_error_iff (element : Element) : form.morph element type = .error cause ↔ form.registry.Lacks type cause := by
  rw [← Registry.get_eq_error_iff, morph, bind_eq_error_iff]
  refine ⟨fun hcases => hcases.resolve_right ?_, Or.inl⟩
  rintro ⟨definition, -, hmade⟩
  cases hmade

/-- An element keeps its id with its new type, so it replaces the one it was made from. -/
theorem morphElement_eq_error_iff (hfound : form.findElement elementId = some element) :
    form.morphElement elementId type = .error cause ↔ form.registry.Lacks type cause := by
  rw [← Registry.get_eq_error_iff, morphElement_of_some hfound]
  cases form.registry.get type with
  | error other => simp [Functor.map, Except.map]
  | ok definition => simp [Functor.map, Except.map]

end Form

/-! ### Operations that fail -/

theorem EditError.recover_eq_error_iff {α : Type} {result : Except EditError α} {cause : EditError} :
    EditError.recover result = .error cause ↔
      result = .error cause ∧ ∀ kind id, cause ≠ .missingTarget kind id := by
  cases result with
  | ok value => simp [EditError.recover]
  | error other =>
      cases other with
      | missingTarget kind id =>
          refine ⟨nofun, ?_⟩
          rintro ⟨hsame, hother⟩
          cases hsame
          exact absurd rfl (hother kind id)
      | unknownType | unknownMode | parse =>
          refine ⟨fun hrecovered => ?_, ?_⟩
          · cases hrecovered
            exact ⟨rfl, nofun⟩
          · rintro ⟨hsame, -⟩
            cases hsame
            rfl

namespace Editor

variable {editor : Editor} {now : Time} {type : ElementType} {cause : EditError}

theorem dropped_eq_error_iff {drag : Drag} {outcome : Except EditError (DropOutcome × Form × IdSupply)} :
    (editor.dropped now drag outcome).1 = .error cause ↔
      outcome = .error cause ∧ ∀ kind id, cause ≠ .missingTarget kind id := by
  rw [← EditError.recover_eq_error_iff, dropped]
  split <;> simp [*]

theorem drop_eq_error_iff {zone : DropZone} {data : TransferData} :
    (editor.drop zone data now).1 = .error cause ↔
      TransferData.Misnames data cause ∨ (editor.form.findSection zone.sectionId).isSome ∧
        ∃ type, editor.drag.Resolves data type ∧ editor.form.registry.Lacks type cause := by
  rw [← Drag.drop_eq_error_iff editor.ids]
  refine dropped_eq_error_iff.trans ⟨And.left, fun hfailed => ⟨hfailed, ?_⟩⟩
  rcases (Drag.drop_eq_error_iff editor.ids).mp hfailed with hmisnames | ⟨-, type, -, hlacks⟩
  · exact hmisnames.ne_missingTarget
  · exact hlacks.ne_missingTarget

theorem dropOnCanvas_eq_error_iff {data : TransferData} :
    (editor.dropOnCanvas data now).1 = .error cause ↔
      editor.form.sections ≠ [] ∧ (TransferData.Misnames data cause ∨
        ∃ type, editor.drag.Resolves data type ∧ editor.form.registry.Lacks type cause) := by
  rw [← Drag.dropOnCanvas_eq_error_iff editor.ids]
  refine dropped_eq_error_iff.trans ⟨And.left, fun hfailed => ⟨hfailed, ?_⟩⟩
  rcases (Drag.dropOnCanvas_eq_error_iff editor.ids).mp hfailed with ⟨-, hmisnames | ⟨type, -, hlacks⟩⟩
  · exact hmisnames.ne_missingTarget
  · exact hlacks.ne_missingTarget

theorem morphElement_eq_error_iff {elementId : String} :
    (editor.morphElement elementId type now).1 = .error cause ↔
      (editor.form.findElement elementId).isSome ∧ editor.form.registry.Lacks type cause := by
  have hrecovered : (editor.morphElement elementId type now).1 = .error cause ↔
      EditError.recover (editor.form.morphElement elementId type) = .error cause := by
    unfold morphElement
    split <;> simp [*]
  rw [hrecovered, EditError.recover_eq_error_iff]
  cases hfound : editor.form.findElement elementId with
  | none =>
      rw [Form.morphElement_of_none hfound]
      refine ⟨?_, nofun⟩
      rintro ⟨hmissing, hother⟩
      cases hmissing
      exact absurd rfl (hother _ _)
  | some element =>
      rw [Form.morphElement_eq_error_iff hfound]
      exact ⟨fun hfailed => ⟨rfl, hfailed.1⟩, fun hfailed => ⟨hfailed.2, hfailed.2.ne_missingTarget⟩⟩

theorem changeDraftType_eq_error_iff :
    (editor.changeDraftType type).1 = .error cause ↔
      ∃ dialog, editor.dialog? = some dialog ∧ type ≠ dialog.draft.type ∧
        editor.form.registry.Lacks type cause := by
  unfold changeDraftType
  cases hdialog : editor.dialog? with
  | none => simp
  | some dialog =>
      by_cases hsame : type = dialog.draft.type
      · simp [EditDialog.changeType, hsame, pure, Except.pure]
      · rw [← Form.morph_eq_error_iff dialog.draft]
        cases hmorph : editor.form.morph dialog.draft type with
        | error other => simp [EditDialog.changeType, hsame, hmorph]
        | ok element => simp [EditDialog.changeType, hsame, hmorph]

/-- **The only failures are types that are not known, and what reports nothing changes nothing.** A drop fails
if and only if its data has a tag of no type, or the section is there and the type of the drop has no
definition in the registry of the form. So does a drop outside all zones, except that it never fails on a
form without sections. A change of the type of an element fails if and only if the element is there and the
type has no definition; that of a draft if and only if a dialog is open, and the type is another one and
has no definition. The cause is always the unknown type. An attempt that fails or finds nothing to do
leaves the editor as it was, except that a drop ends the drag and that a submission validates the
entry, whose values stay. -/
theorem failures_are_unknown_types [PatternEngine] (editor : Editor) (now : Time) :
    (∀ zone data cause, (editor.drop zone data now).1 = .error cause ↔
      TransferData.Misnames data cause ∨ (editor.form.findSection zone.sectionId).isSome ∧
        ∃ type, editor.drag.Resolves data type ∧ editor.form.registry.Lacks type cause) ∧
    (∀ data cause, (editor.dropOnCanvas data now).1 = .error cause ↔
      editor.form.sections ≠ [] ∧ (TransferData.Misnames data cause ∨
        ∃ type, editor.drag.Resolves data type ∧ editor.form.registry.Lacks type cause)) ∧
    (∀ elementId type cause, (editor.morphElement elementId type now).1 = .error cause ↔
      (editor.form.findElement elementId).isSome ∧ editor.form.registry.Lacks type cause) ∧
    (∀ type cause, (editor.changeDraftType type).1 = .error cause ↔
      ∃ dialog, editor.dialog? = some dialog ∧ type ≠ dialog.draft.type ∧
        editor.form.registry.Lacks type cause) ∧
    ∀ operation : Operation, operation.isAttempt → (editor.perform operation now).1 = [] →
      (editor.perform operation now).2 = editor.attempted operation ∧
      (editor.attempted operation).entry.values = editor.entry.values := by
  refine ⟨fun _ _ _ => drop_eq_error_iff, fun _ _ => dropOnCanvas_eq_error_iff,
    fun _ _ _ => morphElement_eq_error_iff, fun _ _ => changeDraftType_eq_error_iff, ?_⟩
  intro operation hattempt hnothing
  exact ⟨eq_attempted_of_unreported editor now hattempt hnothing, editor.values_attempted operation⟩

/-- A drop whose data has a tag of no type fails, whatever is dragged, and only ends the drag. -/
theorem misnamed_drop_changes_nothing :
    let editor := (start (.blank "u") .standard ⟨0⟩ 0).run [(.dragStart .text, 0)]
    let zone : DropZone := ⟨"section-1", 0⟩
    let data : TransferData := .ofList [(TransferData.typeSlot, "chart")]
    (editor.drop zone data 0).1 = .error (.unknownType "chart") ∧
      (editor.perform (.drop zone data) 0).2 = editor.dragEnd := by
  intro editor zone data
  obtain ⟨hdrop, -, -, -, hnothing⟩ := failures_are_unknown_types editor 0
  have hfailed : (editor.drop zone data 0).1 = .error (.unknownType "chart") :=
    (hdrop zone data _).mpr (Or.inl ⟨"chart", by decide +kernel, by decide, rfl⟩)
  have hunreported : (editor.perform (.drop zone data) 0).1 = [] := by
    change reported (editor.drop zone data 0).1 = []
    rw [hfailed]
    rfl
  exact ⟨hfailed, (hnothing (.drop zone data) rfl hunreported).1⟩

end Editor

end FormEditor
