import FormEditor.Proofs.Editor.Settle
import FormEditor.Proofs.Sync.Direction

/-! What the editor does with its two bridges. Every operation uses each of them through calls and in no other
way, so what all calls keep of a bridge holds of both in every state of every run: texts wait in one direction
at most. -/

namespace FormEditor

namespace Bridge

variable {α : Type} [Textual α]

theorem run_append (bridge : Bridge α) (before since : List (Call α)) :
    bridge.run (before ++ since) = (bridge.run before).run since :=
  List.foldl_append ..

theorem OneWay.run (calls : List (Call α)) : ∀ {bridge : Bridge α}, bridge.OneWay → (bridge.run calls).OneWay := by
  induction calls with
  | nil => exact fun honeWay => honeWay
  | cons call calls ih => exact fun honeWay => ih (honeWay.perform call)

end Bridge

namespace Editor

/-- The bridges of an editor come from those of another one by calls. -/
structure CallsBridges (editor next : Editor) : Prop where
  form : ∃ calls : List (Bridge.Call Form), next.formBridge = editor.formBridge.run calls
  record : ∃ calls : List (Bridge.Call Record), next.recordBridge = editor.recordBridge.run calls

namespace CallsBridges

variable {editor middle next : Editor} {now : Time}

theorem of_same (hform : next.formBridge = editor.formBridge) (hrecord : next.recordBridge = editor.recordBridge) :
    editor.CallsBridges next :=
  ⟨⟨[], hform⟩, [], hrecord⟩

theorem trans (hfirst : editor.CallsBridges middle) (hsecond : middle.CallsBridges next) :
    editor.CallsBridges next := by
  obtain ⟨⟨formCalls, hform⟩, recordCalls, hrecord⟩ := hfirst
  obtain ⟨⟨moreForm, hmoreForm⟩, moreRecord, hmoreRecord⟩ := hsecond
  refine ⟨⟨formCalls ++ moreForm, ?_⟩, recordCalls ++ moreRecord, ?_⟩
  · rw [hmoreForm, hform, Bridge.run_append]
  · rw [hmoreRecord, hrecord, Bridge.run_append]

theorem of_editsForm (hedits : editor.EditsForm now next) : editor.CallsBridges next := by
  refine ⟨?_, [], hedits.recordBridge⟩
  rcases hedits.form with ⟨-, hsame⟩ | hpublished
  · exact ⟨[], hsame⟩
  · exact ⟨[.modelChanged next.form now], hpublished⟩

theorem setMode (editor : Editor) (mode : ViewMode) : editor.CallsBridges (editor.setMode mode).2 :=
  of_same rfl rfl

theorem publishRecord (editor : Editor) (now : Time) : editor.CallsBridges (editor.publishRecord now) := by
  unfold Editor.publishRecord
  split
  · exact ⟨⟨[], rfl⟩, [.modelChanged _ now], rfl⟩
  · exact of_same rfl rfl

theorem switchRecordText (editor : Editor) : editor.CallsBridges editor.switchRecordText.2 := by
  obtain ⟨store, -, ⟨-, hnext⟩ | ⟨record, -, hnext⟩⟩ := editor.switchRecordText_cases
  · rw [hnext]
    exact ⟨⟨[], rfl⟩, [.flush], rfl⟩
  · rw [hnext]
    exact ⟨⟨[], rfl⟩, [.flush, .showModel record], rfl⟩

theorem openRecord (editor : Editor) (id : RecordId) (mode : ViewMode) (now : Time) :
    editor.CallsBridges (editor.openRecord id mode now).2 := by
  have hopens := editor.opens_openRecord id mode now
  generalize editor.openRecord id mode now = result at hopens ⊢
  cases hopens with
  | missing => exact of_same rfl rfl
  | @again _ store =>
      have hchosen : editor.CallsBridges { editor with records := store } := of_same rfl rfl
      exact (hchosen.trans (publishRecord { editor with records := store } now)).trans (setMode _ mode)
  | @switched _ store =>
      have hchosen : editor.CallsBridges { editor with records := store } := of_same rfl rfl
      exact (hchosen.trans (switchRecordText { editor with records := store })).trans (setMode _ mode)

theorem pressButton (editor : Editor) (id : RecordId) (button : ListButton) (now : Time) :
    editor.CallsBridges (editor.pressButton id button now).2 := by
  cases button with
  | view => exact openRecord editor id .view now
  | update => exact openRecord editor id .update now
  | delete =>
      change editor.CallsBridges (editor.deleteRecord id).2
      have hremoves := editor.removes_deleteRecord id
      generalize editor.deleteRecord id = result at hremoves ⊢
      cases hremoves <;> exact of_same rfl rfl

theorem submit [PatternEngine] (editor : Editor) (now : Time) : editor.CallsBridges (editor.submit now).2 := by
  have hsubmits := editor.submits_submit now
  generalize editor.submit now = result at hsubmits ⊢
  cases hsubmits with
  | ignored | refused | added | lost => exact of_same rfl rfl
  | @updated _ store =>
      let stored : Editor := { editor with entry := editor.entry.validateAll editor.form, records := store }
      have hstored : editor.CallsBridges stored := of_same rfl rfl
      exact hstored.trans (publishRecord stored now)

theorem setFieldValue [PatternEngine] (editor : Editor) (fieldId : String) (value : Json) :
    editor.CallsBridges (editor.setFieldValue fieldId value).2 := by
  have henters := editor.enters_setFieldValue fieldId value
  generalize editor.setFieldValue fieldId value = result at henters ⊢
  cases henters <;> exact of_same rfl rfl

theorem poll (editor : Editor) (now : Time) : editor.CallsBridges (editor.poll now).2 :=
  ⟨⟨[.poll now], formBridge_poll editor now⟩, [.poll now], recordBridge_poll editor now⟩

/-- **Every operation uses the bridges through their calls.** -/
theorem perform [PatternEngine] (editor : Editor) (operation : Operation) (now : Time) :
    editor.CallsBridges (editor.perform operation now).2 := by
  cases operation with
  | setMode mode => exact of_same rfl rfl
  | pressButton id button => exact pressButton editor id button now
  | loadRecords records =>
      have hloaded : editor.CallsBridges { editor with records := .ofList records } := of_same rfl rfl
      exact hloaded.trans (publishRecord { editor with records := .ofList records } now)
  | setFieldValue fieldId value => exact setFieldValue editor fieldId value
  | submit => exact submit editor now
  | formTextChanged text => exact ⟨⟨[.editText text now], rfl⟩, [], rfl⟩
  | recordTextChanged text => exact ⟨⟨[], rfl⟩, [.editText text now], rfl⟩
  | poll => exact poll editor now
  | settle =>
      have hpoll : ∀ {reached : Editor} (now : Time), editor.CallsBridges reached →
          editor.CallsBridges (reached.poll now).2 := fun now hcalls => hcalls.trans (poll _ now)
      exact settle_keeps hpoll now (of_same rfl rfl)
  | setPaletteSearch | dragStart | dragOver | dragLeave | dragEnd | drop | dropOnCanvas | deleteElement
  | duplicateElement | morphElement | moveRow | rename | openMenu | closeOverlay | chooseEntry | openDialog
  | changeDraft | changeDraftType | saveDialog | deleteFromDialog | cancelDialog =>
      exact of_editsForm (editsForm_perform editor now rfl)

theorem run [PatternEngine] (steps : List (Operation × Time)) :
    ∀ editor : Editor, editor.CallsBridges (editor.run steps) := by
  induction steps with
  | nil => exact fun _ => of_same rfl rfl
  | cons step steps ih => exact fun editor => (perform editor step.1 step.2).trans (ih _)

end CallsBridges

/-- In both bridges texts wait in one direction at most. -/
structure OneWay (editor : Editor) : Prop where
  form : editor.formBridge.OneWay
  record : editor.recordBridge.OneWay

theorem OneWay.of_callsBridges {editor next : Editor} (honeWay : editor.OneWay)
    (hcalls : editor.CallsBridges next) : next.OneWay := by
  obtain ⟨⟨formCalls, hform⟩, recordCalls, hrecord⟩ := hcalls
  exact ⟨hform ▸ honeWay.form.run formCalls, hrecord ▸ honeWay.record.run recordCalls⟩

theorem oneWay_start (form : Form) (config : EditorConfig) (ids : IdSupply) (now : Time) :
    (start form config ids now).OneWay := by
  have hnew : (Bridge.ofDelays config.textDebounce config.modelDebounce : Bridge Form).OneWay := Or.inl rfl
  exact ⟨hnew.perform (.modelChanged form now), Or.inl rfl⟩

theorem oneWay_run [PatternEngine] (form : Form) (config : EditorConfig) (ids : IdSupply) (now : Time)
    (steps : List (Operation × Time)) : ((start form config ids now).run steps).OneWay :=
  (oneWay_start form config ids now).of_callsBridges (.run steps _)

end Editor

end FormEditor
