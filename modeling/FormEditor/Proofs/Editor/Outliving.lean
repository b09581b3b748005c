import FormEditor.Pattern.Standard
import FormEditor.Proofs.Editor.Switching

/-! Typed text that outlives its record. A record that is opened settles what was typed for the one before.
The deletion of the selected record and the loading of others end a selection as well, but they leave that
text waiting. It is still read when its time has come, and replaces whatever record has the id by then.
Nothing else can be written from a text as long as nothing more is typed. -/

namespace FormEditor

/-- Whether an operation may read the text of a record. -/
def Operation.readsRecordText : Operation → Bool
  | .pressButton _ .view | .pressButton _ .update | .poll | .settle => true
  | _ => false

namespace Editor

/-- Whether an operation deletes the selected record or loads other records. -/
def endsSelection (editor : Editor) : Operation → Bool
  | .pressButton id .delete => editor.records.selectedId = some id
  | .loadRecords _ => true
  | _ => false

/-- A step writes a stored record from a text. -/
def WritesFromText [PatternEngine] (editor : Editor) (operation : Operation) (now : Time) : Prop :=
  (∃ id, .recordReplaced id ∈ (editor.perform operation now).1) ∨
    (operation.readsRecordText = true ∧
      (editor.perform operation now).2.records.records ≠ editor.records.records)

variable {editor middle next : Editor} {actions more : List Action} {id : RecordId}

/-! ### What happens to the waiting text -/

theorem inbound_publishRecord (editor : Editor) (now : Time) :
    (editor.publishRecord now).recordBridge.inbound = editor.recordBridge.inbound := by
  unfold publishRecord
  split
  · exact Bridge.inbound_modelChanged _
  · rfl

theorem recordBridge_deleteRecord (editor : Editor) (id : RecordId) :
    (editor.deleteRecord id).2.recordBridge = editor.recordBridge := by
  have hremoves := editor.removes_deleteRecord id
  generalize editor.deleteRecord id = result at hremoves ⊢
  cases hremoves <;> rfl

theorem inbound_submit [PatternEngine] (editor : Editor) (now : Time) :
    (editor.submit now).2.recordBridge.inbound = editor.recordBridge.inbound := by
  have hsubmits := editor.submits_submit now
  generalize editor.submit now = result at hsubmits ⊢
  cases hsubmits with
  | ignored | refused | added | lost => rfl
  | updated => exact inbound_publishRecord _ now

/-- The end of a selection leaves the bridge of the text as it is. -/
theorem recordBridge_of_endsSelection [PatternEngine] {operation : Operation}
    (hends : editor.endsSelection operation = true)
    (now : Time) : (editor.perform operation now).2.recordBridge = editor.recordBridge := by
  unfold endsSelection at hends
  split at hends
  · exact recordBridge_deleteRecord editor _
  · rfl
  · cases hends

theorem openRecord_of_selected (hmem : id ∈ editor.records.ids)
    (hselected : editor.records.selectedId = some id) (mode : ViewMode) (now : Time) :
    editor.openRecord id mode now =
      ([.recordSelected id, .modeChanged mode], ((editor.publishRecord now).setMode mode).2) := by
  have hsame : { editor with records := { editor.records with selectedId := some id } } = editor := by
    rw [← hselected]
  have hopens := editor.opens_openRecord id mode now
  generalize editor.openRecord id mode now = result at hopens ⊢
  cases hopens with
  | missing hmissing => exact absurd hmem (RecordStore.get?_eq_none_iff.mp hmissing)
  | again hselect =>
      obtain ⟨-, rfl⟩ := RecordStore.select_eq_ok hselect
      rw [hsame]
  | switched _ hother => exact absurd hselected hother

/-! ### What can be written -/

/-- All that is read of the text of a record is what waited before. -/
structure TakesUpWaiting (editor : Editor) (actions : List Action) (next : Editor) : Prop where
  waits : ∀ record, next.recordBridge.waitingModel? = some record →
    editor.recordBridge.waitingModel? = some record
  replaced : ∀ id, .recordReplaced id ∈ actions →
    ∃ record, editor.recordBridge.waitingModel? = some record ∧ record.id = id

namespace TakesUpWaiting

theorem refl : editor.TakesUpWaiting [] editor :=
  ⟨fun _ hwaiting => hwaiting, nofun⟩

theorem trans (hfirst : editor.TakesUpWaiting actions middle) (hsecond : middle.TakesUpWaiting more next) :
    editor.TakesUpWaiting (actions ++ more) next := by
  refine ⟨fun record hwaiting => hfirst.waits record (hsecond.waits record hwaiting), ?_⟩
  intro id hmem
  rcases List.mem_append.mp hmem with hmem | hmem
  · exact hfirst.replaced id hmem
  · obtain ⟨record, hwaiting, hid⟩ := hsecond.replaced id hmem
    exact ⟨record, hfirst.waits record hwaiting, hid⟩

theorem of_unread (hinbound : next.recordBridge.inbound = editor.recordBridge.inbound)
    (hunread : ∀ action ∈ actions, action.isOfRecordText = false) : editor.TakesUpWaiting actions next := by
  refine ⟨fun record hwaiting => ?_, fun id hmem => nomatch hunread _ hmem⟩
  rw [Bridge.waitingModel?, hinbound] at hwaiting
  exact hwaiting

end TakesUpWaiting

/-- Nothing is written but by reading what waited before. -/
structure WritesWaiting (editor : Editor) (actions : List Action) (next : Editor) : Prop
    extends editor.TakesUpWaiting actions next where
  written : next.records.records ≠ editor.records.records →
    ∃ record, editor.recordBridge.waitingModel? = some record

namespace WritesWaiting

theorem refl : editor.WritesWaiting [] editor :=
  ⟨.refl, fun hwritten => absurd rfl hwritten⟩

theorem trans (hfirst : editor.WritesWaiting actions middle) (hsecond : middle.WritesWaiting more next) :
    editor.WritesWaiting (actions ++ more) next := by
  refine ⟨hfirst.toTakesUpWaiting.trans hsecond.toTakesUpWaiting, fun hwritten => ?_⟩
  -- what is read in the second stretch only waited in between, and so it waited before
  by_cases hsame : middle.records.records = editor.records.records
  · rw [← hsame] at hwritten
    obtain ⟨record, hwaiting⟩ := hsecond.written hwritten
    exact ⟨record, hfirst.waits record hwaiting⟩
  · exact hfirst.written hsame

/-- The records stay, and no record is reported. -/
theorem of_same (hrecords : next.records.records = editor.records.records)
    (hwaits : ∀ record, next.recordBridge.waitingModel? = some record →
      editor.recordBridge.waitingModel? = some record)
    (hunreported : ∀ id, .recordReplaced id ∉ actions) : editor.WritesWaiting actions next :=
  ⟨⟨hwaits, fun id hmem => absurd hmem (hunreported id)⟩, fun hwritten => absurd hrecords hwritten⟩

/-- The record that waited is the one that is reported. -/
theorem of_waiting {record : Record} (hwaiting : editor.recordBridge.waitingModel? = some record)
    (hwaits : ∀ record, next.recordBridge.waitingModel? = some record →
      editor.recordBridge.waitingModel? = some record) :
    editor.WritesWaiting [.recordReplaced record.id] next := by
  refine ⟨⟨hwaits, fun id hreplaced => ?_⟩, fun _ => ⟨record, hwaiting⟩⟩
  cases List.mem_singleton.mp hreplaced
  exact ⟨record, hwaiting, rfl⟩

theorem of_unread (hrecords : next.records.records = editor.records.records)
    (hinbound : next.recordBridge.inbound = editor.recordBridge.inbound)
    (hunread : ∀ action ∈ actions, action.isOfRecordText = false) : editor.WritesWaiting actions next :=
  ⟨.of_unread hinbound hunread, fun hwritten => absurd hrecords hwritten⟩

theorem pollForm (editor : Editor) (now : Time) :
    editor.WritesWaiting (editor.pollForm now).1 (editor.pollForm now).2 :=
  of_unread (congrArg (·.records) (records_pollForm editor now))
    (congrArg (·.inbound) (recordBridge_pollForm editor now)) (unread_pollForm editor now)

/-- What comes of the bridge is written only if it is a record that was read. -/
theorem pollRecord (editor : Editor) (now : Time) :
    editor.WritesWaiting (editor.pollRecord now).1 (editor.pollRecord now).2 := by
  let polled := { editor with recordBridge := (editor.recordBridge.poll now).2 }
  have hwaits (record : Record) (hwaiting : polled.recordBridge.waitingModel? = some record) :
      editor.recordBridge.waitingModel? = some record :=
    Bridge.waitingModel?_of_poll hwaiting
  have hnext : editor.pollRecord now = polled.adoptOutcome (editor.recordBridge.poll now).1 := rfl
  rw [hnext]
  cases hpoll : (editor.recordBridge.poll now).1 with
  | idle | rejected => exact of_same rfl hwaits (fun _ => List.not_mem_nil)
  | pushed => exact of_same rfl hwaits (by simp [adoptOutcome])
  | applied record =>
      by_cases hmem : record.id ∈ polled.records.ids
      · obtain ⟨store, -, hadopted⟩ := adoptOutcome_of_mem polled hmem
        rw [hadopted]
        exact of_waiting (Bridge.waitingModel?_of_poll_eq_applied hpoll) hwaits
      · rw [adoptOutcome_of_not_mem polled hmem]
        exact of_same rfl hwaits (fun _ => List.not_mem_nil)

theorem poll (editor : Editor) (now : Time) :
    editor.WritesWaiting (editor.poll now).1 (editor.poll now).2 :=
  (pollForm editor now).trans (pollRecord _ now)

/-- What waits is settled, so that nothing waits any more. -/
theorem of_settles (hsettles : editor.Settles actions next.records.records)
    (hinbound : next.recordBridge.inbound.pending = none) : editor.WritesWaiting actions next := by
  have hwaits (record : Record) (hwaiting : next.recordBridge.waitingModel? = some record) :
      editor.recordBridge.waitingModel? = some record := by
    rw [Bridge.waitingModel?, hinbound] at hwaiting
    cases hwaiting
  by_cases hstored :
      ∃ record, editor.recordBridge.waitingModel? = some record ∧ record.id ∈ editor.records.ids
  · obtain ⟨record, hwaiting, hmem⟩ := hstored
    rw [(hsettles.stored record hwaiting hmem).1]
    exact of_waiting hwaiting hwaits
  · obtain ⟨hactions, hrecords⟩ :=
      hsettles.dropped (fun record hwaiting hmem => hstored ⟨record, hwaiting, hmem⟩)
    rw [hactions]
    exact of_same hrecords hwaits (fun _ => List.not_mem_nil)

theorem openRecord (editor : Editor) (id : RecordId) (mode : ViewMode) (now : Time) :
    editor.WritesWaiting (editor.openRecord id mode now).1 (editor.openRecord id mode now).2 := by
  have hopened : ∀ action ∈ [Action.recordSelected id, .modeChanged mode], action.isOfRecordText = false :=
    List.forall_mem_cons.mpr ⟨rfl, List.forall_mem_singleton.mpr rfl⟩
  by_cases hmem : id ∈ editor.records.ids
  · by_cases hselected : editor.records.selectedId = some id
    · obtain ⟨bridge, hpublished⟩ := editor.publishRecord_eq now
      rw [openRecord_of_selected hmem hselected]
      exact of_unread (by rw [hpublished]; rfl) (inbound_publishRecord editor now) hopened
    · obtain ⟨settled, store, shown, hsettles, -, -, hnext⟩ := openRecord_of_other hmem hselected
      have hsettled : editor.WritesWaiting settled
          { editor with
            records := store
            recordBridge := editor.recordBridge.flush.2.showModel shown } :=
        of_settles hsettles rfl
      rw [hnext]
      exact hsettled.trans (of_unread rfl rfl hopened)
  · rcases editor.openRecord_cases id mode now with ⟨-, hnext⟩ | ⟨hsome, -⟩
    · rw [hnext]
      exact refl
    · exact absurd ((RecordStore.isSome_get?_iff id).mp hsome) hmem

/-- An operation that reads the text of a record writes nothing but what waited. -/
theorem perform [PatternEngine] {operation : Operation} (hreads : operation.readsRecordText = true) (now : Time) :
    editor.WritesWaiting (editor.perform operation now).1 (editor.perform operation now).2 := by
  cases operation with
  | pressButton id button =>
      cases button with
      | view => exact openRecord editor id .view now
      | update => exact openRecord editor id .update now
      | delete => cases hreads
  | poll => exact poll editor now
  | settle =>
      exact @settle_reports editor.WritesWaiting (fun now hwrites => hwrites.trans (poll _ now)) [] editor now
        refl
  | _ => cases hreads

end WritesWaiting

/-- A step in which nothing is typed for a record takes up nothing but what waited. -/
theorem TakesUpWaiting.perform [PatternEngine] {operation : Operation} (hsilent : operation.recordText? = none)
    (now : Time) :
    editor.TakesUpWaiting (editor.perform operation now).1 (editor.perform operation now).2 := by
  cases operation with
  | setMode mode => exact .of_unread rfl (List.forall_mem_singleton.mpr rfl)
  | pressButton id button =>
      cases button with
      | view | update => exact (WritesWaiting.perform rfl now).toTakesUpWaiting
      | delete =>
          exact .of_unread (congrArg (·.inbound) (recordBridge_deleteRecord editor id))
            (attempts_deleteRecord editor id).unread
  | loadRecords records => exact .of_unread rfl (List.forall_mem_nil _)
  | setFieldValue fieldId value =>
      exact .of_unread (congrArg (·.inbound) (recordBridge_setFieldValue editor fieldId value))
        (attempts_setFieldValue editor fieldId value).unread
  | submit => exact .of_unread (inbound_submit editor now) (attempts_submit editor now).unread
  | formTextChanged text => exact .of_unread rfl (List.forall_mem_nil _)
  | recordTextChanged text => cases hsilent
  | poll | settle => exact (WritesWaiting.perform rfl now).toTakesUpWaiting
  | setPaletteSearch | dragStart | dragOver | dragLeave | dragEnd | drop | dropOnCanvas | deleteElement
  | duplicateElement | morphElement | moveRow | rename | openMenu | closeOverlay | chooseEntry | openDialog
  | changeDraft | changeDraftType | saveDialog | deleteFromDialog | cancelDialog =>
      exact .of_unread (congrArg (·.inbound) (editsForm_perform editor now rfl).recordBridge)
        (unread_of_isFormEdit editor now rfl)

theorem TakesUpWaiting.run [PatternEngine] (steps : List (Operation × Time)) :
    ∀ {editor : Editor}, (∀ step ∈ steps, step.1.recordText? = none) →
      editor.TakesUpWaiting (editor.report steps) (editor.run steps) := by
  induction steps with
  | nil => exact fun _ => refl
  | cons step steps ih =>
      intro editor hsilent
      obtain ⟨hfirst, hrest⟩ := List.forall_mem_cons.mp hsilent
      exact (TakesUpWaiting.perform hfirst step.2).trans (ih hrest)

/-- Whatever a step writes from a text waited before. -/
theorem WritesFromText.waiting [PatternEngine] {operation : Operation} {now : Time}
    (hwrites : editor.WritesFromText operation now) (hsilent : operation.recordText? = none) :
    ∃ record, editor.recordBridge.waitingModel? = some record := by
  rcases hwrites with ⟨id, hreplaced⟩ | ⟨hreads, hwritten⟩
  · obtain ⟨record, hwaiting, -⟩ := (TakesUpWaiting.perform hsilent now).replaced id hreplaced
    exact ⟨record, hwaiting⟩
  · exact (WritesWaiting.perform hreads now).written hwritten

/-! ### What is written -/

/-- A waiting text is read when its time has come, and the stored record of its id is replaced. -/
theorem recordReplaced_mem_poll (houtbound : editor.recordBridge.outbound.pending = none)
    {edit : Scheduled String} (hedit : editor.recordBridge.inbound.pending = some edit) {record : Record}
    (hparse : Textual.parse? edit.item = some record) {now : Time} (hdue : edit.deadline ≤ now)
    (hmem : record.id ∈ editor.records.ids) : .recordReplaced record.id ∈ (editor.poll now).1 := by
  have hpoll : ((editor.pollForm now).2.recordBridge.poll now).1 = .applied record := by
    rw [recordBridge_pollForm]
    rcases editor.recordBridge.poll_cases now with
      ⟨_, _, hpush, -, -⟩ | ⟨_, text, hinbound, -, hnext⟩ | ⟨-, hwaiting, -⟩
    · cases hpush.symm.trans houtbound
    · cases hedit.symm.trans hinbound
      rw [hnext]
      exact (Bridge.read_eq_applied_iff _).mpr hparse
    · exact absurd hdue (Nat.not_le.mpr (hwaiting edit hedit))
  let polled : Editor :=
    { (editor.pollForm now).2 with recordBridge := ((editor.pollForm now).2.recordBridge.poll now).2 }
  have hstored : record.id ∈ polled.records.ids := by
    change record.id ∈ (editor.pollForm now).2.records.ids
    rw [records_pollForm]
    exact hmem
  obtain ⟨store, -, hnext⟩ := adoptOutcome_of_mem polled hstored
  have hreplaced : ((editor.pollForm now).2.pollRecord now).1 = [.recordReplaced record.id] := by
    change (polled.adoptOutcome ((editor.pollForm now).2.recordBridge.poll now).1).1 = _
    rw [hpoll, hnext]
  exact List.mem_append_right _ (hreplaced ▸ List.mem_singleton_self _)

/-- The record in a waiting text is written when a record of its id is loaded and the time has come. -/
theorem exists_writesFromText [PatternEngine] (houtbound : editor.recordBridge.outbound.pending = none)
    {record : Record} (hwaiting : editor.recordBridge.waitingModel? = some record) (now : Time) :
    ∃ later last, (∀ step ∈ later ++ [last], step.1.recordText? = none) ∧
      (now :: (later ++ [last]).map (·.2)).Pairwise (· ≤ ·) ∧
      (editor.run later).WritesFromText last.1 last.2 := by
  obtain ⟨edit, hedit, hparse⟩ := Option.bind_eq_some_iff.mp hwaiting
  obtain ⟨due, hnow, hdue⟩ : ∃ due, now ≤ due ∧ edit.deadline ≤ due :=
    ⟨max now edit.deadline, Nat.le_max_left .., Nat.le_max_right ..⟩
  -- nothing is selected in what is loaded, so nothing is shown and the text goes on waiting
  have hreplaced := @recordReplaced_mem_poll (editor.loadRecords [record] due) houtbound edit hedit record
    hparse due hdue (List.mem_singleton_self _)
  refine ⟨[(.loadRecords [record], due)], (.poll, due), ?_, ?_, Or.inl ⟨record.id, hreplaced⟩⟩
  · simp [Operation.recordText?]
  · simp [hnow]

/-- **Typed text outlives its record exactly if it holds a record.** On any run, let the selected record be
deleted or other records be loaded, and let nothing be typed for a record from then on. A stored record
can still be written from a text if and only if the text that waited then holds a record. It is always the
stored record of that id that is replaced, whichever has it by then. -/
theorem written_from_text_iff [PatternEngine] (form : Form) (config : EditorConfig) (ids : IdSupply) (started : Time)
    (steps : List (Operation × Time)) {ending : Operation} (now : Time) :
    let editor := (start form config ids started).run steps
    let after := (editor.perform ending now).2
    editor.endsSelection ending = true →
    ((∃ later last, (∀ step ∈ later ++ [last], step.1.recordText? = none) ∧
        (now :: (later ++ [last]).map (·.2)).Pairwise (· ≤ ·) ∧
        (after.run later).WritesFromText last.1 last.2) ↔
      ∃ record, editor.recordBridge.waitingModel? = some record) ∧
    ∀ later, (∀ step ∈ later, step.1.recordText? = none) → ∀ id, .recordReplaced id ∈ after.report later →
      ∃ record, editor.recordBridge.waitingModel? = some record ∧ record.id = id := by
  intro editor after hends
  have hbridge : after.recordBridge = editor.recordBridge := recordBridge_of_endsSelection hends now
  rw [← hbridge]
  refine ⟨⟨?_, ?_⟩, fun later hsilent => (TakesUpWaiting.run later hsilent).replaced⟩
  · rintro ⟨later, last, hsilent, -, hwrites⟩
    obtain ⟨hlater, hlast⟩ := List.forall_mem_append.mp hsilent
    obtain ⟨record, hwaiting⟩ := hwrites.waiting (hlast last (List.mem_singleton_self _))
    exact ⟨record, (TakesUpWaiting.run later hlater).waits record hwaiting⟩
  · rintro ⟨record, hwaiting⟩
    obtain ⟨edit, hedit, -⟩ := Option.bind_eq_some_iff.mp hwaiting
    have hmirrored := (mirrored_start form config ids started).run steps
    have houtbound : after.recordBridge.outbound.pending = none := by
      rw [hbridge] at hedit ⊢
      exact (hmirrored.edits edit hedit).nothing_to_show
    exact exists_writesFromText houtbound hwaiting now

/-- The text of a record that is deleted while it waits. -/
theorem deleted_record_written :
    let steps : List (Operation × Time) := [(.loadRecords [shortRecord], 0), (.pressButton 1 .view, 0),
      (.recordTextChanged otherRecordText, 0)]
    let editor := (start (.blank "u") .standard ⟨0⟩ 0).run steps
    let after := (editor.perform (.pressButton 1 .delete) 0).2
    editor.endsSelection (.pressButton 1 .delete) = true ∧
    ∃ later last, (∀ step ∈ later ++ [last], step.1.recordText? = none) ∧
      (0 :: (later ++ [last]).map (·.2)).Pairwise (· ≤ ·) ∧ (after.run later).WritesFromText last.1 last.2 := by
  intro steps
  have hends :
      ((start (.blank "u") .standard ⟨0⟩ 0).run steps).endsSelection (.pressButton 1 .delete) = true := by
    decide +kernel
  obtain ⟨hwrites, -⟩ := written_from_text_iff (.blank "u") .standard ⟨0⟩ 0 steps 0 hends
  exact ⟨hends, hwrites.mpr ⟨otherRecord, by decide +kernel⟩⟩

/-- **A new record takes the text of the one before.** A text is typed for the only record, which is deleted
before the text is read. The next record that is submitted gets its id, and is replaced by what was typed
for the other. -/
theorem new_record_replaced :
    let steps : List (Operation × Time) := [(.loadRecords [shortRecord], 0), (.pressButton 1 .view, 0),
      (.recordTextChanged otherRecordText, 0)]
    let editor := (start (.blank "u") .standard ⟨0⟩ 0).run steps
    let after := (editor.perform (.pressButton 1 .delete) 0).2
    let later : List (Operation × Time) := [(.setMode .add, 0), (.submit, 0)]
    editor.endsSelection (.pressButton 1 .delete) = true ∧
    (∀ step ∈ later ++ [(.poll, 1000)], step.1.recordText? = none) ∧
    (after.run later).records.records = [⟨1, .empty⟩] ∧
    ((after.run later).poll 1000).1 = [.recordReplaced 1] ∧
    ((after.run later).poll 1000).2.records.records = [otherRecord] := by
  intro steps editor after later
  exact ⟨by decide +kernel, by decide, by decide +kernel, by decide +kernel, by decide +kernel⟩

end Editor

end FormEditor
