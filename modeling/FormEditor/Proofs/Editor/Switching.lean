import FormEditor.Pattern.Standard
import FormEditor.Proofs.Editor.Binding
import FormEditor.Proofs.Editor.Report
import FormEditor.Proofs.Editor.Settle

/-! Going from one record to another. What was typed for the record selected before is settled first: a record
that is stored takes what was typed for it, and anything else is dropped. Then the other record is shown and
nothing waits any more, so nothing is reported of the text of a record until records are used again. -/

namespace FormEditor

/-- The mode in which a button opens its record. -/
def ListButton.opens? : ListButton → Option ViewMode
  | .view => some .view
  | .update => some .update
  | .delete => none

/-- Whether an operation uses the records or types into the text of one. -/
def Operation.usesRecords : Operation → Bool
  | .pressButton .. | .loadRecords _ | .submit | .recordTextChanged _ => true
  | _ => false

namespace Editor

variable {editor middle next : Editor} {actions more : List Action} {id : RecordId}

/-! ### Settling what was typed -/

/-- The text of a record that waits is settled. -/
structure Settles (editor : Editor) (actions : List Action) (records : List Record) : Prop where
  stored : ∀ record, editor.recordBridge.waitingModel? = some record → record.id ∈ editor.records.ids →
    actions = [.recordReplaced record.id] ∧
      RecordStore.Rewrites record.id record.fields editor.records.records records
  dropped : (∀ record, editor.recordBridge.waitingModel? = some record → record.id ∉ editor.records.ids) →
    actions = [] ∧ records = editor.records.records

theorem adoptOutcome_of_mem (editor : Editor) {record : Record} (hmem : record.id ∈ editor.records.ids) :
    ∃ store, editor.records.replace record = .ok store ∧
      editor.adoptOutcome (.applied record) =
        ([.recordReplaced record.id], { editor with records := store }) := by
  obtain ⟨store, hreplace⟩ := RecordStore.update_of_mem hmem record.fields
  have hreplace : editor.records.replace record = .ok store := hreplace
  exact ⟨store, hreplace, by simp only [adoptOutcome, adoptRecord, hreplace, Option.toList_some]⟩

theorem adoptOutcome_of_not_mem (editor : Editor) {record : Record} (hmem : record.id ∉ editor.records.ids) :
    editor.adoptOutcome (.applied record) = ([], editor) := by
  obtain ⟨cause, hreplace⟩ := RecordStore.update_of_not_mem hmem record.fields
  have hreplace : editor.records.replace record = .error cause := hreplace
  simp only [adoptOutcome, adoptRecord, hreplace, Option.toList_none]

/-- Taking up what waits settles it, and keeps the ids and the selection. -/
theorem adoptOutcome_flush (editor : Editor) :
    ∃ actions store,
      { editor with recordBridge := editor.recordBridge.flush.2 }.adoptOutcome editor.recordBridge.flush.1 =
        (actions, { editor with records := store, recordBridge := editor.recordBridge.flush.2 }) ∧
      editor.Settles actions store.records ∧ store.ids = editor.records.ids ∧
      store.selectedId = editor.records.selectedId := by
  cases hflush : editor.recordBridge.flush.1 with
  | applied record =>
      have hwaiting := Bridge.flush_eq_applied_iff.mp hflush
      by_cases hmem : record.id ∈ editor.records.ids
      · obtain ⟨store, hreplace, hnext⟩ :=
          adoptOutcome_of_mem { editor with recordBridge := editor.recordBridge.flush.2 } hmem
        obtain ⟨hrewrites, hids, hselection⟩ := RecordStore.rewrites_update hreplace
        refine ⟨_, store, hnext, ⟨?_, ?_⟩, hids, hselection⟩
        · intro other hother _
          cases hwaiting.symm.trans hother
          exact ⟨rfl, hrewrites⟩
        · exact fun habsent => absurd hmem (habsent record hwaiting)
      · have hnext :=
          adoptOutcome_of_not_mem { editor with recordBridge := editor.recordBridge.flush.2 } hmem
        refine ⟨[], editor.records, hnext, ⟨?_, fun _ => ⟨rfl, rfl⟩⟩, rfl, rfl⟩
        intro other hother hstored
        cases hwaiting.symm.trans hother
        exact absurd hstored hmem
  | idle | rejected =>
      refine ⟨[], editor.records, rfl, ⟨?_, fun _ => ⟨rfl, rfl⟩⟩, rfl, rfl⟩
      intro record hwaiting
      cases hflush.symm.trans (Bridge.flush_eq_applied_iff.mpr hwaiting)
  | pushed => exact absurd hflush Bridge.flush_ne_pushed

/-- What waits is settled, and the selected record is shown. -/
theorem switchRecordText_settles (hselected : editor.records.selectedId = some id)
    (hmem : id ∈ editor.records.ids) :
    ∃ actions store shown, editor.Settles actions store.records ∧ store.selectedId = some id ∧
      store.get? id = some shown ∧
      editor.switchRecordText =
        (actions,
          { editor with
            records := store
            recordBridge := editor.recordBridge.flush.2.showModel shown }) := by
  obtain ⟨actions, store, hnext, hsettles, hids, hselection⟩ := editor.adoptOutcome_flush
  obtain ⟨shown, hshown⟩ :=
    Option.isSome_iff_exists.mp ((RecordStore.isSome_get?_iff id).mpr (hids ▸ hmem))
  have hselected := hselection.trans hselected
  have hrecord : store.selected = some shown := by
    rw [RecordStore.selected, hselected, Option.bind_some, hshown]
  exact ⟨actions, store, shown, hsettles, hselected, hshown, by simp only [switchRecordText, hnext, hrecord]⟩

/-- A record that is there and is not the selected one is shown when what waits is settled, in whatever mode. -/
theorem openRecord_of_other (hmem : id ∈ editor.records.ids) (hother : editor.records.selectedId ≠ some id) :
    ∃ settled store shown, editor.Settles settled store.records ∧ store.selectedId = some id ∧
      store.get? id = some shown ∧
      ∀ mode now, editor.openRecord id mode now =
        (settled ++ [.recordSelected id, .modeChanged mode],
          ({ editor with
              records := store
              recordBridge := editor.recordBridge.flush.2.showModel shown }.setMode mode).2) := by
  obtain ⟨settled, store, shown, hsettles, hselected, hshown, hswitch⟩ :=
    @switchRecordText_settles { editor with records := { editor.records with selectedId := some id } } id
      rfl hmem
  refine ⟨settled, store, shown, ⟨hsettles.stored, hsettles.dropped⟩, hselected, hshown, ?_⟩
  intro mode now
  have hopens := editor.opens_openRecord id mode now
  generalize editor.openRecord id mode now = result at hopens ⊢
  cases hopens with
  | missing hmissing => exact absurd hmem (RecordStore.get?_eq_none_iff.mp hmissing)
  | again _ hselected => exact absurd hselected hother
  | switched hselect =>
      obtain ⟨-, rfl⟩ := RecordStore.select_eq_ok hselect
      rw [hswitch]

/-! ### Resting -/

theorem recordBridge_setFieldValue [PatternEngine] (editor : Editor) (fieldId : String) (value : Json) :
    (editor.setFieldValue fieldId value).2.recordBridge = editor.recordBridge := by
  have henters := editor.enters_setFieldValue fieldId value
  generalize editor.setFieldValue fieldId value = result at henters ⊢
  cases henters <;> rfl

/-- Nothing happens to the text of a record. -/
structure Rests (editor : Editor) (actions : List Action) (next : Editor) : Prop where
  recordBridge : next.recordBridge = editor.recordBridge
  unread : ∀ action ∈ actions, action.isOfRecordText = false

namespace Rests

theorem refl : editor.Rests [] editor :=
  ⟨rfl, List.forall_mem_nil _⟩

theorem trans (hfirst : editor.Rests actions middle) (hsecond : middle.Rests more next) :
    editor.Rests (actions ++ more) next :=
  ⟨hsecond.recordBridge.trans hfirst.recordBridge, List.forall_mem_append.mpr ⟨hfirst.unread, hsecond.unread⟩⟩

/-- Polls find nothing to do where nothing waits. -/
theorem poll (hquiet : editor.recordBridge.isPending = false) (now : Time) :
    editor.Rests (editor.poll now).1 (editor.poll now).2 := by
  have hbridge := recordBridge_pollForm editor now
  have hpoll : (editor.pollForm now).2.recordBridge.poll now =
      (.idle, (editor.pollForm now).2.recordBridge) :=
    Bridge.poll_of_quiet (hbridge ▸ hquiet)
  have hrecord : (editor.pollForm now).2.pollRecord now = ([], (editor.pollForm now).2) := by
    simp only [pollRecord, hpoll, adoptOutcome]
  have hnext : editor.poll now = ((editor.pollForm now).1 ++ [], (editor.pollForm now).2) := by
    simp only [Editor.poll, hrecord]
  rw [hnext, List.append_nil]
  exact ⟨hbridge, unread_pollForm editor now⟩

/-- A step that neither uses the records nor types leaves a text alone for which nothing waits. -/
theorem perform [PatternEngine] (hquiet : editor.recordBridge.isPending = false) {operation : Operation}
    (hunused : operation.usesRecords = false) (now : Time) :
    editor.Rests (editor.perform operation now).1 (editor.perform operation now).2 := by
  cases operation with
  | setMode mode => exact ⟨rfl, List.forall_mem_singleton.mpr rfl⟩
  | setFieldValue fieldId value =>
      exact ⟨recordBridge_setFieldValue editor fieldId value,
        (attempts_setFieldValue editor fieldId value).unread⟩
  | formTextChanged text => exact ⟨rfl, List.forall_mem_nil _⟩
  | poll => exact poll hquiet now
  | settle =>
      refine @settle_reports editor.Rests (fun now hrests => ?_) [] editor now refl
      exact hrests.trans (poll (hrests.recordBridge ▸ hquiet) now)
  | pressButton | loadRecords | submit | recordTextChanged => cases hunused
  | setPaletteSearch | dragStart | dragOver | dragLeave | dragEnd | drop | dropOnCanvas | deleteElement
  | duplicateElement | morphElement | moveRow | rename | openMenu | closeOverlay | chooseEntry | openDialog
  | changeDraft | changeDraftType | saveDialog | deleteFromDialog | cancelDialog =>
      exact ⟨(editsForm_perform editor now rfl).recordBridge, unread_of_isFormEdit editor now rfl⟩

theorem run [PatternEngine] (steps : List (Operation × Time)) :
    ∀ {editor : Editor}, editor.recordBridge.isPending = false →
      (∀ step ∈ steps, step.1.usesRecords = false) →
        editor.Rests (editor.report steps) (editor.run steps) := by
  induction steps with
  | nil => exact fun _ _ => refl
  | cons step steps ih =>
      intro editor hquiet hunused
      obtain ⟨hfirst, hrest⟩ := List.forall_mem_cons.mp hunused
      have hrests := perform hquiet hfirst step.2
      exact hrests.trans (ih (hrests.recordBridge ▸ hquiet) hrest)

end Rests

/-- **Opening another record settles what was typed and shows the record.** A button that opens a record that is
not there does nothing. If the record is there and is not the selected one, a waiting text that holds a stored
record replaces that record, which is reported first, and any other waiting text is dropped; no other record
changes. Then the record is selected and its text is shown, and nothing waits: as long as no records are used
and nothing is typed for them, nothing happens to the text of a record. -/
theorem opening_settles_and_shows [PatternEngine] (editor : Editor) (id : RecordId) {button : ListButton}
    {mode : ViewMode} (hopens : button.opens? = some mode) (now : Time) :
    let actions := (editor.pressButton id button now).1
    let after := (editor.pressButton id button now).2
    (id ∉ editor.records.ids → actions = [] ∧ after = editor) ∧
    (id ∈ editor.records.ids → editor.records.selectedId ≠ some id →
      (∃ settled, actions = settled ++ [.recordSelected id, .modeChanged mode] ∧
        editor.Settles settled after.records.records) ∧
      after.records.selectedId = some id ∧ after.mode = mode ∧
      (∃ record, after.records.get? id = some record ∧ after.recordText = record.text) ∧
      after.recordBridge.isPending = false ∧
      ∀ steps, (∀ step ∈ steps, step.1.usesRecords = false) →
        after.Rests (after.report steps) (after.run steps)) := by
  have hpress : editor.pressButton id button now = editor.openRecord id mode now := by
    cases button with
    | view | update =>
        cases hopens
        rfl
    | delete => cases hopens
  intro actions after
  rw [show actions = (editor.openRecord id mode now).1 from congrArg Prod.fst hpress,
    show after = (editor.openRecord id mode now).2 from congrArg Prod.snd hpress]
  constructor
  · intro habsent
    rcases editor.openRecord_cases id mode now with ⟨-, hnext⟩ | ⟨hsome, -⟩
    · rw [hnext]
      exact ⟨rfl, rfl⟩
    · exact absurd ((RecordStore.isSome_get?_iff id).mp hsome) habsent
  · intro hmem hother
    obtain ⟨settled, store, shown, hsettles, hselected, hshown, hnext⟩ :=
      openRecord_of_other hmem hother
    -- a model that is shown takes both texts out of their queues
    have hquiet : (editor.recordBridge.flush.2.showModel shown).isPending = false := rfl
    rw [hnext mode now]
    exact ⟨⟨settled, rfl, hsettles⟩, hselected, rfl, ⟨shown, hshown, rfl⟩, hquiet,
      fun steps hunused => Rests.run steps hquiet hunused⟩

/-- The record in that other text of a short record. -/
def otherRecord : Record :=
  ⟨1, .ofList [("a", .string "y")]⟩

/-- A record takes what was typed for it when the next one is opened. -/
theorem typed_text_settled :
    let steps : List (Operation × Time) := [(.loadRecords [shortRecord, ⟨2, .empty⟩], 0),
      (.pressButton 1 .view, 0), (.recordTextChanged otherRecordText, 0)]
    let editor := (start (.blank "u") .standard ⟨0⟩ 0).run steps
    let after := (editor.pressButton 2 .update 10).2
    (editor.pressButton 2 .update 10).1 = [.recordReplaced 1, .recordSelected 2, .modeChanged .update] ∧
    RecordStore.Rewrites 1 otherRecord.fields editor.records.records after.records.records := by
  intro steps
  have hwaiting :
      ((start (.blank "u") .standard ⟨0⟩ 0).run steps).recordBridge.waitingModel? = some otherRecord := by
    decide +kernel
  obtain ⟨-, hopened⟩ :=
    @opening_settles_and_shows _ ((start (.blank "u") .standard ⟨0⟩ 0).run steps) 2 .update .update rfl 10
  obtain ⟨⟨settled, hactions, hsettles⟩, -⟩ := hopened (by decide +kernel) (by decide +kernel)
  obtain ⟨hreplaced, hrewrites⟩ := hsettles.stored otherRecord hwaiting (by decide +kernel)
  rw [hreplaced] at hactions
  exact ⟨hactions, hrewrites⟩

end Editor

end FormEditor
