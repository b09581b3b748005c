import Mathlib.Data.List.Induction
import FormEditor.Pattern.Standard
import FormEditor.Proofs.Editor.Step
import FormEditor.View.Projection

/-! Drags. A drag goes on from its start until it is ended or dropped, and every end leaves nothing behind,
whatever comes of the drop. So a zone is marked only during a drag, and then just the one that the drag came
over last and has not left since. The drop zones of the form are shown accordingly. -/

namespace FormEditor

/-! ### Gestures -/

/-- One use of a drag. A drop is one on a form, which may be another one each time. -/
inductive Gesture where
  | start (type : ElementType)
  | hover (zone : DropZone)
  | leave (zone : DropZone)
  | finish
  | drop (form : Form) (ids : IdSupply) (zone : DropZone) (data : TransferData)
  | dropOnCanvas (form : Form) (ids : IdSupply) (data : TransferData)

namespace Gesture

def isStart : Gesture → Bool
  | .start _ => true
  | _ => false

def isHover : Gesture → Bool
  | .hover _ => true
  | _ => false

def endsDrag : Gesture → Bool
  | .finish | .drop .. | .dropOnCanvas .. => true
  | _ => false

end Gesture

namespace Drag

/-- The drag after a gesture, whatever comes of it. -/
def apply (drag : Drag) : Gesture → Drag
  | .start type => drag.start type
  | .hover zone => drag.hover zone
  | .leave zone => drag.leave zone
  | .finish => .idle
  | .drop form ids zone data => (drag.drop form ids zone data).1
  | .dropOnCanvas form ids data => (drag.dropOnCanvas form ids data).1

/-- The drag after some gestures. -/
def after (gestures : List Gesture) : Drag :=
  gestures.foldl apply idle

theorem after_snoc (gestures : List Gesture) (gesture : Gesture) :
    after (gestures ++ [gesture]) = (after gestures).apply gesture :=
  List.foldl_concat ..

theorem apply_endsDrag (drag : Drag) {gesture : Gesture} (hends : gesture.endsDrag) :
    drag.apply gesture = .idle := by
  cases gesture with
  | finish | drop => rfl
  | dropOnCanvas form ids data => exact drag.dropOnCanvas_idle form ids data
  | start | hover | leave => cases hends

theorem isDragging_hover (drag : Drag) (zone : DropZone) : (drag.hover zone).isDragging = drag.isDragging := by
  unfold hover
  split <;> rfl

theorem isDragging_leave (drag : Drag) (zone : DropZone) : (drag.leave zone).isDragging = drag.isDragging := by
  unfold leave
  split <;> rfl

theorem hovered_leave_iff {drag : Drag} {zone other : DropZone} :
    (drag.leave zone).hovered = some other ↔ zone ≠ other ∧ drag.hovered = some other := by
  unfold leave
  split
  · rename_i hzone
    rw [hzone]
    simp
  · rename_i hzone
    refine ⟨fun hother => ⟨?_, hother⟩, fun hother => hother.2⟩
    rintro rfl
    exact hzone hother

/-- A start begins a drag, and only the gestures that end it stop it. -/
theorem isDragging_apply_iff {drag : Drag} {gesture : Gesture} : (drag.apply gesture).isDragging = true ↔
    gesture.isStart = true ∨ (gesture.endsDrag = false ∧ drag.isDragging = true) := by
  cases gesture with
  | start type => exact ⟨fun _ => Or.inl rfl, fun _ => rfl⟩
  | hover zone => simp [apply, isDragging_hover, Gesture.isStart, Gesture.endsDrag]
  | leave zone => simp [apply, isDragging_leave, Gesture.isStart, Gesture.endsDrag]
  | finish | drop | dropOnCanvas =>
      rw [drag.apply_endsDrag rfl]
      exact ⟨nofun, nofun⟩

end Drag

/-! ### The zone that is hovered -/

/-- The gestures since the last start of a drag. -/
def StartsLast (gestures since : List Gesture) : Prop :=
  ∃ before type, gestures = before ++ .start type :: since ∧ ∀ gesture ∈ since, gesture.isStart = false

/-- A drag was started, and no gesture has ended it since. -/
def GoesOn (gestures : List Gesture) : Prop :=
  ∃ since, StartsLast gestures since ∧ ∀ gesture ∈ since, gesture.endsDrag = false

/-- The zone of the last hover since the last start, if the drag has not left it after that. -/
def HoversLast (gestures : List Gesture) (zone : DropZone) : Prop :=
  ∃ before after, StartsLast gestures (before ++ .hover zone :: after) ∧
    ∀ gesture ∈ after, gesture.isHover = false ∧ gesture ≠ .leave zone

section Snoc

variable {gestures since : List Gesture} {gesture last : Gesture} {zone : DropZone}

theorem startsLast_snoc : StartsLast (gestures ++ [gesture]) (since ++ [last]) ↔
    last = gesture ∧ gesture.isStart = false ∧ StartsLast gestures since := by
  constructor
  · rintro ⟨before, type, hgestures, hnone⟩
    rw [← List.cons_append, ← List.append_assoc] at hgestures
    obtain ⟨rfl, hlast⟩ := List.append_inj' hgestures rfl
    cases hlast
    obtain ⟨hnone, hlast⟩ := List.forall_mem_append.mp hnone
    exact ⟨rfl, hlast gesture (List.mem_singleton_self _), before, type, rfl, hnone⟩
  · rintro ⟨rfl, hlast, before, type, rfl, hnone⟩
    refine ⟨before, type, by rw [List.append_assoc, List.cons_append], ?_⟩
    exact List.forall_mem_append.mpr ⟨hnone, List.forall_mem_singleton.mpr hlast⟩

/-- A drag goes on after a start, and after every other gesture that does not end it. -/
theorem goesOn_snoc : GoesOn (gestures ++ [gesture]) ↔
    gesture.isStart = true ∨ (gesture.endsDrag = false ∧ GoesOn gestures) := by
  constructor
  · rintro ⟨since, hstarts, hgoes⟩
    rcases since.eq_nil_or_concat with rfl | ⟨earlier, last, rfl⟩
    · obtain ⟨before, type, hgestures, -⟩ := hstarts
      obtain ⟨-, hlast⟩ := List.append_inj' hgestures rfl
      cases hlast
      exact Or.inl rfl
    · rw [List.concat_eq_append] at hstarts hgoes
      obtain ⟨rfl, -, hstarts⟩ := startsLast_snoc.mp hstarts
      obtain ⟨hgoes, hlast⟩ := List.forall_mem_append.mp hgoes
      exact Or.inr ⟨hlast last (List.mem_singleton_self _), earlier, hstarts, hgoes⟩
  · intro hgoes
    cases hstart : gesture.isStart with
    | true =>
        cases gesture with
        | start type => exact ⟨[], ⟨gestures, type, rfl, nofun⟩, nofun⟩
        | _ => cases hstart
    | false =>
        obtain ⟨hgesture, since, hstarts, hgoes⟩ := hgoes.resolve_left (by simp [hstart])
        refine ⟨since ++ [gesture], startsLast_snoc.mpr ⟨rfl, hstart, hstarts⟩, ?_⟩
        exact List.forall_mem_append.mpr ⟨hgoes, List.forall_mem_singleton.mpr hgesture⟩

/-- A gesture marks the zone that it comes over during a drag, and keeps one marked that it does not concern. -/
theorem hoversLast_snoc : HoversLast (gestures ++ [gesture]) zone ↔
    (gesture = .hover zone ∧ ∃ since, StartsLast gestures since) ∨
      (gesture.isStart = false ∧ gesture.isHover = false ∧ gesture ≠ .leave zone ∧ HoversLast gestures zone) := by
  have hsplit : ∀ before rest : List Gesture, ∀ last, before ++ .hover zone :: (rest ++ [last]) =
      (before ++ .hover zone :: rest) ++ [last] := by simp
  constructor
  · rintro ⟨before, after, hstarts, hafter⟩
    rcases after.eq_nil_or_concat with rfl | ⟨rest, last, rfl⟩
    · obtain ⟨rfl, -, hstarts⟩ := startsLast_snoc.mp hstarts
      exact Or.inl ⟨rfl, before, hstarts⟩
    · rw [List.concat_eq_append] at hafter hstarts
      rw [hsplit] at hstarts
      obtain ⟨rfl, hstart, hstarts⟩ := startsLast_snoc.mp hstarts
      obtain ⟨hrest, hlast⟩ := List.forall_mem_append.mp hafter
      obtain ⟨hhover, hleave⟩ := List.forall_mem_singleton.mp hlast
      exact Or.inr ⟨hstart, hhover, hleave, before, rest, hstarts, hrest⟩
  · rintro (⟨rfl, since, hstarts⟩ | ⟨hstart, hhover, hleave, before, rest, hstarts, hrest⟩)
    · exact ⟨since, [], startsLast_snoc.mpr ⟨rfl, rfl, hstarts⟩, nofun⟩
    · refine ⟨before, rest ++ [gesture], ?_, ?_⟩
      · rw [hsplit]
        exact startsLast_snoc.mpr ⟨rfl, hstart, hstarts⟩
      · exact List.forall_mem_append.mpr ⟨hrest, List.forall_mem_singleton.mpr ⟨hhover, hleave⟩⟩

end Snoc

/-! ### Drags -/

namespace Drag

/-- A drag as it is after some gestures: it goes on as they do, and only during it is a zone marked, and then the
one hovered last. -/
structure Follows (drag : Drag) (gestures : List Gesture) : Prop where
  idle : drag.isDragging = false → drag = .idle
  dragging : drag.isDragging = true ↔ GoesOn gestures
  hovered : drag.isDragging = true → ∀ zone, drag.hovered = some zone ↔ HoversLast gestures zone

theorem follows_idle {gestures : List Gesture} (hends : ¬GoesOn gestures) : idle.Follows gestures :=
  ⟨fun _ => rfl, ⟨nofun, fun hgoes => absurd hgoes hends⟩, nofun⟩

namespace Follows

variable {drag : Drag} {gestures : List Gesture}

theorem dragging_apply (hfollows : drag.Follows gestures) (gesture : Gesture) :
    (drag.apply gesture).isDragging = true ↔ GoesOn (gestures ++ [gesture]) := by
  rw [isDragging_apply_iff, goesOn_snoc, hfollows.dragging]

theorem start (hfollows : drag.Follows gestures) (type : ElementType) :
    (drag.start type).Follows (gestures ++ [.start type]) := by
  refine ⟨nofun, hfollows.dragging_apply (.start type), ?_⟩
  intro _ zone
  rw [hoversLast_snoc]
  refine ⟨nofun, ?_⟩
  rintro (⟨hsame, -⟩ | ⟨hstart, -⟩)
  · cases hsame
  · cases hstart

theorem hover (hfollows : drag.Follows gestures) (zone : DropZone) :
    (drag.hover zone).Follows (gestures ++ [.hover zone]) := by
  have hgoes := hfollows.dragging_apply (.hover zone)
  change (drag.hover zone).isDragging = true ↔ _ at hgoes
  unfold Drag.hover at hgoes ⊢
  split at hgoes
  · rename_i hdragging
    rw [if_pos hdragging]
    obtain ⟨since, hstarts, -⟩ := hfollows.dragging.mp hdragging
    refine ⟨?_, hgoes, ?_⟩
    · intro hidle
      cases hidle.symm.trans hdragging
    · intro _ other
      rw [hoversLast_snoc]
      constructor
      · intro hsame
        cases hsame
        exact Or.inl ⟨rfl, since, hstarts⟩
      · rintro (⟨hsame, -⟩ | ⟨-, hhover, -⟩)
        · cases hsame
          rfl
        · cases hhover
  · rename_i hidle
    rw [if_neg hidle, hfollows.idle (eq_false_of_ne_true hidle)]
    exact follows_idle (mt hgoes.mpr hidle)

theorem leave (hfollows : drag.Follows gestures) (zone : DropZone) :
    (drag.leave zone).Follows (gestures ++ [.leave zone]) := by
  have hkept : (drag.leave zone).isDragging = drag.isDragging := drag.isDragging_leave zone
  refine ⟨?_, hfollows.dragging_apply (.leave zone), ?_⟩
  · rw [hkept]
    intro hidle
    rw [hfollows.idle hidle]
    rfl
  · rw [hkept]
    intro hdragging other
    rw [hovered_leave_iff, hfollows.hovered hdragging other, hoversLast_snoc]
    constructor
    · rintro ⟨hzone, hhovers⟩
      exact Or.inr ⟨rfl, rfl, fun hsame => hzone (by cases hsame; rfl), hhovers⟩
    · rintro (⟨hsame, -⟩ | ⟨-, -, hzone, hhovers⟩)
      · cases hsame
      · exact ⟨fun hsame => hzone (by rw [hsame]), hhovers⟩

/-- Every gesture moves a drag on as it should. -/
theorem apply (hfollows : drag.Follows gestures) (gesture : Gesture) :
    (drag.apply gesture).Follows (gestures ++ [gesture]) := by
  have hgoes := hfollows.dragging_apply gesture
  cases gesture with
  | start type => exact hfollows.start type
  | hover zone => exact hfollows.hover zone
  | leave zone => exact hfollows.leave zone
  | finish | drop | dropOnCanvas =>
      rw [drag.apply_endsDrag rfl] at hgoes ⊢
      exact follows_idle (mt hgoes.mpr nofun)

end Follows

theorem follows_after (gestures : List Gesture) : (after gestures).Follows gestures := by
  induction gestures using List.reverseRecOn with
  | nil => exact follows_idle fun ⟨_, ⟨before, _, hgestures, _⟩, _⟩ => by simp at hgestures
  | append_singleton gestures gesture ih =>
      rw [after_snoc]
      exact ih.apply gesture

/-- A zone is shown as hovered, and else as the drag goes on or not. -/
theorem Follows.zoneState {drag : Drag} {gestures : List Gesture} (hfollows : drag.Follows gestures) (zone : DropZone) :
    (drag.zoneState zone = .inert ↔ drag.isDragging = false) ∧
    (drag.isDragging = true → (drag.zoneState zone = .hovered ↔ HoversLast gestures zone) ∧
      (drag.zoneState zone = .armed ↔ ¬HoversLast gestures zone)) := by
  cases hdragging : drag.isDragging with
  | false =>
      rw [hfollows.idle hdragging]
      exact ⟨⟨fun _ => rfl, fun _ => rfl⟩, nofun⟩
  | true =>
      rw [← hfollows.hovered hdragging zone, Drag.zoneState, hdragging]
      by_cases hzone : drag.hovered = some zone
      · simp [hzone]
      · simp [hzone]

end Drag

namespace Editor

/-! ### The gestures of a run -/

/-- The gesture that an operation is. -/
def gesture? (editor : Editor) : Operation → Option Gesture
  | .dragStart type => some (.start type)
  | .dragOver zone => some (.hover zone)
  | .dragLeave zone => some (.leave zone)
  | .dragEnd => some .finish
  | .drop zone data => some (.drop editor.form editor.ids zone data)
  | .dropOnCanvas data => some (.dropOnCanvas editor.form editor.ids data)
  | _ => none

/-- The gestures of a run, in their order. -/
def gestures [PatternEngine] (editor : Editor) : List (Operation × Time) → List Gesture
  | [] => []
  | (operation, now) :: steps =>
    (editor.gesture? operation).toList ++ (editor.perform operation now).2.gestures steps

theorem dragAfter_eq (editor : Editor) (operation : Operation) :
    editor.dragAfter operation = (editor.gesture? operation).toList.foldl Drag.apply editor.drag := by
  cases operation with
  | dropOnCanvas data => exact (editor.drag.dropOnCanvas_idle editor.form editor.ids data).symm
  | _ => rfl

/-- A run moves the drag on by its gestures, and by nothing else. -/
theorem drag_run [PatternEngine] (steps : List (Operation × Time)) : ∀ editor : Editor,
    (editor.run steps).drag = (editor.gestures steps).foldl Drag.apply editor.drag := by
  induction steps with
  | nil => exact fun _ => rfl
  | cons step steps ih =>
      intro editor
      obtain ⟨operation, now⟩ := step
      have hdrag := (editor.step_perform operation now).drag_eq
      rw [gestures, List.foldl_append, ← dragAfter_eq, ← hdrag]
      exact ih (editor.perform operation now).2

/-! ### The drop zones that are shown -/

theorem zones_formView {editor : Editor} (hmode : editor.mode = .editor) :
    editor.formView.sections.flatMap (·.zones) =
      editor.form.dropZones.map fun zone => ⟨zone, editor.drag.zoneState zone⟩ := by
  simp [formView, sectionView, zoneViews, hmode, Form.dropZones, List.flatMap_map, List.map_flatMap,
    Function.comp_def]

/-- **A drag never gets stuck.** After any gestures, with any zones, data and forms, something is being dragged
exactly if a drag was started and not ended since. No zone is marked unless something is being dragged, and
whatever comes of a drop or an end, nothing is being dragged any more. An editor with such a drag shows the
drop zones of its form while that is built: as inert unless something is being dragged, and else as hovered
if a zone is the one hovered last since the drag was started and was not left after that, and as armed if
not. Runs of an editor move its drag on by their gestures alone. -/
theorem drags_never_stick [PatternEngine] (gestures : List Gesture) :
    let drag := Drag.after gestures
    (drag.isDragging = true ↔
      ∃ since, StartsLast gestures since ∧ ∀ gesture ∈ since, gesture.endsDrag = false) ∧
    (drag.isDragging = false → drag.hovered = none) ∧
    (∀ gesture : Gesture, gesture.endsDrag → drag.apply gesture = .idle) ∧
    (∀ editor : Editor, editor.drag = drag → editor.mode = .editor → ∃ shown, editor.project.view = .form shown ∧
      (shown.sections.flatMap (·.zones)).map (·.zone) = editor.form.dropZones ∧
      ∀ view ∈ shown.sections.flatMap (·.zones),
        (view.state = .inert ↔ drag.isDragging = false) ∧
        (drag.isDragging = true → (view.state = .hovered ↔ HoversLast gestures view.zone) ∧
          (view.state = .armed ↔ ¬HoversLast gestures view.zone))) ∧
    ∀ (form : Form) (config : EditorConfig) (supply : IdSupply) (begun : Time) (steps : List (Operation × Time)),
      let started := start form config supply begun
      (started.run steps).drag = Drag.after (started.gestures steps) := by
  intro drag
  have hfollows : drag.Follows gestures := Drag.follows_after gestures
  refine ⟨hfollows.dragging, ?_, fun gesture hends => drag.apply_endsDrag hends, ?_, ?_⟩
  · intro hidle
    rw [hfollows.idle hidle]
    rfl
  · intro editor hdrag hmode
    refine ⟨editor.formView, ?_, ?_, ?_⟩
    · simp only [project, view, hmode]
    · rw [zones_formView hmode, List.map_map]
      exact List.map_id _
    · intro view hview
      rw [zones_formView hmode] at hview
      obtain ⟨zone, -, rfl⟩ := List.mem_map.mp hview
      rw [hdrag]
      exact hfollows.zoneState zone
  · exact fun form config supply begun steps => drag_run steps (start form config supply begun)

/-- A text is dragged over the first of two zones and leaves it again. -/
theorem left_zone_armed :
    let field : InputField := ⟨.text, ⟨"a", none, none, none, none⟩, "L", none, none, none, none⟩
    let form : Form := ⟨⟨"u", "1", "A"⟩, .builtin, [⟨"s", "S", [.single "r" "c" (.input field)]⟩]⟩
    let zone : DropZone := ⟨"s", 0⟩
    let entered : List (Operation × Time) := [(.dragStart .text, 1), (.dragOver zone, 2)]
    let left : List (Operation × Time) := entered ++ [(.dragLeave zone, 3)]
    let started := start form .standard ⟨5⟩ 0
    zone ∈ form.dropZones ∧
      (started.run entered).drag.isDragging = true ∧ (started.run left).drag.isDragging = true ∧
      (∃ shown, (started.run entered).project.view = .form shown ∧
        ∀ view ∈ shown.sections.flatMap (·.zones), view.zone = zone → view.state = .hovered) ∧
      ∃ shown, (started.run left).project.view = .form shown ∧
        ∀ view ∈ shown.sections.flatMap (·.zones), view.zone = zone → view.state = .armed := by
  intro field form zone entered left started
  let onto : List Gesture := [.start .text, .hover zone]
  let off : List Gesture := onto ++ [.leave zone]
  have hstarts : StartsLast onto [.hover zone] := ⟨[], .text, rfl, by simp [Gesture.isStart]⟩
  have hstartsOff : StartsLast off [.hover zone, .leave zone] := startsLast_snoc.mpr ⟨rfl, rfl, hstarts⟩
  have hhovers : HoversLast onto zone := ⟨[], [], hstarts, nofun⟩
  have hleft : ¬HoversLast off zone := by
    rw [hoversLast_snoc]
    rintro (⟨hsame, -⟩ | ⟨-, -, hzone, -⟩)
    · cases hsame
    · exact hzone rfl
  obtain ⟨hgoes, -, -, hshown, hrun⟩ := drags_never_stick onto
  obtain ⟨hgoesOff, -, -, hshownOff, -⟩ := drags_never_stick off
  have hentered : (started.run entered).drag = Drag.after onto := hrun form .standard ⟨5⟩ 0 entered
  have hoff : (started.run left).drag = Drag.after off := hrun form .standard ⟨5⟩ 0 left
  have hdragging := hgoes.mpr ⟨_, hstarts, by simp [Gesture.endsDrag]⟩
  have hdraggingOff := hgoesOff.mpr ⟨_, hstartsOff, by simp [Gesture.endsDrag]⟩
  obtain ⟨shown, hview, -, hzones⟩ := hshown _ hentered rfl
  obtain ⟨shownOff, hviewOff, -, hzonesOff⟩ := hshownOff _ hoff rfl
  refine ⟨by decide +kernel, by rw [hentered]; exact hdragging, by rw [hoff]; exact hdraggingOff, ?_, ?_⟩
  · refine ⟨shown, hview, fun view hmem hzone => ?_⟩
    exact ((hzones view hmem).2 hdragging).1.mpr (hzone ▸ hhovers)
  · refine ⟨shownOff, hviewOff, fun view hmem hzone => ?_⟩
    exact ((hzonesOff view hmem).2 hdraggingOff).2.mpr (hzone ▸ hleft)

end Editor

end FormEditor
