import FormEditor.Editor.Overlays
import FormEditor.Editor.Sync

/-! Runs of the editor. An operation is one use of the editor at some time, and a run is a list of
them. The edits of the form are described here by one relation: they leave the records alone, and a
form that changed is handed to the bridge of its text. -/

namespace FormEditor

/-- One change of the draft in the dialog. The draft can also take a type as another form than the edited one
defines it, and keeps its own if it is not defined there. -/
inductive DraftEdit where
  | text (typed : String)
  | subtitle (typed : String)
  | description (typed : String)
  | placeholder (typed : String)
  | options (typed : String)
  | type (form : Form) (chosen : ElementType)

def DraftEdit.apply : DraftEdit → EditDialog → EditDialog
  | .text typed, dialog => dialog.setText typed
  | .subtitle typed, dialog => dialog.setSubtitle typed
  | .description typed, dialog => dialog.setDescription typed
  | .placeholder typed, dialog => dialog.setPlaceholder typed
  | .options typed, dialog => dialog.setOptions typed
  | .type form chosen, dialog => (dialog.changeType form chosen).toOption.getD dialog

/-- One use of the editor. -/
inductive Operation where
  | setMode (mode : ViewMode)
  | pressButton (id : RecordId) (button : ListButton)
  | loadRecords (records : List Record)
  | setPaletteSearch (search : String)
  | dragStart (type : ElementType)
  | dragOver (zone : DropZone)
  | dragLeave (zone : DropZone)
  | dragEnd
  | drop (zone : DropZone) (data : TransferData)
  | dropOnCanvas (data : TransferData)
  | deleteElement (elementId : String)
  | duplicateElement (elementId : String)
  | morphElement (elementId : String) (type : ElementType)
  | moveRow (rowId : String) (direction : MoveDirection)
  | rename (name : String)
  | openMenu (elementId : String) (x y : Float)
  | closeOverlay
  | chooseEntry (choice : MenuEntry)
  | openDialog (elementId : String)
  | changeDraft (edit : DraftEdit)
  | changeDraftType (type : ElementType)
  | saveDialog
  | deleteFromDialog
  | cancelDialog
  | setFieldValue (fieldId : String) (value : Json)
  | submit
  | formTextChanged (text : String)
  | recordTextChanged (text : String)
  | poll
  | settle

namespace Operation

/-- The text that is typed into the text of the form. -/
def formText? : Operation → Option String
  | .formTextChanged text => some text
  | _ => none

/-- The text that is typed into the text of a record. -/
def recordText? : Operation → Option String
  | .recordTextChanged text => some text
  | _ => none

/-- Whether an operation works on the form or on what lies over it. The others use the records, type, or
run the bridges. -/
def isFormEdit : Operation → Bool
  | .setMode _ | .pressButton .. | .loadRecords _ | .setFieldValue .. | .submit => false
  | .formTextChanged _ | .recordTextChanged _ | .poll | .settle => false
  | _ => true

/-- The text typed last into the text of the form, in a run that follows on the typing of another. -/
def lastFormText (before : Option String) (steps : List (Operation × Time)) : Option String :=
  steps.foldl (fun typed step => step.1.formText?.or typed) before

/-- The text typed last into the text of a record, likewise. -/
def lastRecordText (before : Option String) (steps : List (Operation × Time)) : Option String :=
  steps.foldl (fun typed step => step.1.recordText?.or typed) before

end Operation

namespace Editor

/-- The actions of an operation that can fail. -/
def reported (result : Except EditError (List Action)) : List Action :=
  result.toOption.getD []

/-- The actions that an operation reports, and the editor after it. -/
def perform [PatternEngine] (editor : Editor) (operation : Operation) (now : Time) : List Action × Editor :=
  match operation with
  | .setMode mode => (editor.setMode mode).map (fun action => [action]) id
  | .pressButton id button => editor.pressButton id button now
  | .loadRecords records => ([], editor.loadRecords records now)
  | .setPaletteSearch search => ([], editor.setPaletteSearch search)
  | .dragStart type => ([], (editor.dragStart type).2)
  | .dragOver zone => ([], editor.dragOver zone)
  | .dragLeave zone => ([], editor.dragLeave zone)
  | .dragEnd => ([], editor.dragEnd)
  | .drop zone data => (editor.drop zone data now).map reported id
  | .dropOnCanvas data => (editor.dropOnCanvas data now).map reported id
  | .deleteElement elementId => editor.deleteElement elementId now
  | .duplicateElement elementId => editor.duplicateElement elementId now
  | .morphElement elementId type => (editor.morphElement elementId type now).map reported id
  | .moveRow rowId direction => editor.moveRow rowId direction now
  | .rename name => (editor.rename name now).map (fun action => [action]) id
  | .openMenu elementId x y => (editor.openMenu elementId x y).map Option.toList id
  | .closeOverlay => editor.closeOverlay.map Option.toList id
  | .chooseEntry choice => editor.chooseEntry choice now
  | .openDialog elementId => (editor.openDialog elementId).map Option.toList id
  | .changeDraft edit => ([], editor.changeDraft edit.apply)
  | .changeDraftType type =>
    (editor.changeDraftType type).map (fun result => reported (result.map Option.toList)) id
  | .saveDialog => editor.saveDialog now
  | .deleteFromDialog => editor.deleteFromDialog now
  | .cancelDialog => editor.cancelDialog.map Option.toList id
  | .setFieldValue fieldId value => (editor.setFieldValue fieldId value).map Option.toList id
  | .submit => editor.submit now
  | .formTextChanged text => ([], editor.formTextChanged text now)
  | .recordTextChanged text => ([], editor.recordTextChanged text now)
  | .poll => editor.poll now
  | .settle => ((editor.settle now).1, (editor.settle now).2.2)

/-- The editor after a run. -/
def run [PatternEngine] (editor : Editor) (steps : List (Operation × Time)) : Editor :=
  steps.foldl (fun editor step => (editor.perform step.1 step.2).2) editor

theorem run_append [PatternEngine] (editor : Editor) (before since : List (Operation × Time)) :
    editor.run (before ++ since) = (editor.run before).run since :=
  List.foldl_append ..

/-! ### Settling -/

theorem settleWithin_reports {holds : List Action → Editor → Prop}
    (hpoll : ∀ {actions : List Action} {editor : Editor} (now : Time), holds actions editor →
      holds (actions ++ (editor.poll now).1) (editor.poll now).2) (rounds : Nat) :
    ∀ {actions : List Action} {editor : Editor} (now : Time), holds actions editor →
      holds (actions ++ (editor.settleWithin rounds now).1) (editor.settleWithin rounds now).2.2 := by
  induction rounds with
  | zero =>
      intro actions editor now hbefore
      rw [settleWithin, List.append_nil]
      exact hbefore
  | succ rounds ih =>
      intro actions editor now hbefore
      unfold settleWithin
      split
      · rw [List.append_nil]
        exact hbefore
      · simp only
        rw [← List.append_assoc]
        exact ih _ (hpoll _ hbefore)

/-- What every poll keeps of an editor and the actions so far, settling keeps. -/
theorem settle_reports {holds : List Action → Editor → Prop}
    (hpoll : ∀ {actions : List Action} {editor : Editor} (now : Time), holds actions editor →
      holds (actions ++ (editor.poll now).1) (editor.poll now).2)
    {actions : List Action} {editor : Editor} (now : Time) (hbefore : holds actions editor) :
    holds (actions ++ (editor.settle now).1) (editor.settle now).2.2 :=
  settleWithin_reports hpoll 4 now hbefore

theorem settle_keeps {holds : Editor → Prop}
    (hpoll : ∀ {editor : Editor} (now : Time), holds editor → holds (editor.poll now).2) {editor : Editor}
    (now : Time) (hbefore : holds editor) : holds (editor.settle now).2.2 :=
  @settle_reports (fun _ => holds) (fun now hkept => hpoll now hkept) [] editor now hbefore

/-! ### What edits of the form leave behind -/

/-- What an edit of the form can leave behind at a time. -/
structure EditsForm (editor : Editor) (now : Time) (next : Editor) : Prop where
  records : next.records = editor.records
  recordBridge : next.recordBridge = editor.recordBridge
  entry : next.entry = editor.entry
  mode : next.mode = editor.mode
  form : (next.form = editor.form ∧ next.formBridge = editor.formBridge) ∨
    next.formBridge = (editor.formBridge.modelChanged next.form now).2

variable (editor : Editor) (now : Time)

namespace EditsForm

variable {editor now}

/-- Drags, overlays and searches leave the form as it is. -/
theorem same (drag : Drag) (overlay : Option Overlay) (paletteSearch : String) (ids : IdSupply) :
    editor.EditsForm now { editor with drag, overlay, paletteSearch, ids } :=
  ⟨rfl, rfl, rfl, rfl, Or.inl ⟨rfl, rfl⟩⟩

theorem changed (drag : Drag) (overlay : Option Overlay) (ids : IdSupply) (form : Form) :
    editor.EditsForm now ({ editor with drag, overlay, ids }.changeForm form now) :=
  ⟨rfl, rfl, rfl, rfl, Or.inr rfl⟩

/-- An overlay that closes first makes no difference. -/
theorem of_closed {next : Editor} (h : { editor with overlay := none }.EditsForm now next) :
    editor.EditsForm now next :=
  ⟨h.records, h.recordBridge, h.entry, h.mode, h.form⟩

end EditsForm

end Editor

end FormEditor
