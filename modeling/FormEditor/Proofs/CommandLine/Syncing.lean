import FormEditor.Proofs.CommandLine.Reopening
import FormEditor.Proofs.Editor.Draining
import FormEditor.Proofs.Editor.Rejection

/-! Taking the form from a text. In a workspace that was just opened no text waits to be read and no record is
selected, so the one text that waits after a form was typed is read in the only round of settling. What is
answered agrees with what was read, but for one text: where forms are shown at once, the text of the form that
was opened is taken for an echo. Nothing is saved then, and the text is reported as one that did not parse. -/

namespace FormEditor

namespace Bridge

variable {α : Type} [Textual α]

/-- When the time of typed text has come, a poll reads it. -/
theorem poll_of_typed {bridge : Bridge α} {deadline : Time} {text : String}
    (houtbound : bridge.outbound.pending = none) (hinbound : bridge.inbound.pending = some ⟨deadline, text⟩) :
    bridge.poll deadline = bridge.read text := by
  rcases bridge.poll_cases deadline with ⟨_, _, hpush, -, -⟩ | ⟨_, _, hedit, -, hnext⟩ | ⟨-, hearly, -⟩
  · cases houtbound.symm.trans hpush
  · cases hinbound.symm.trans hedit
    exact hnext
  · exact absurd (hearly _ hinbound) (Nat.lt_irrefl deadline)

/-- A bridge that was handed its first model. -/
def opened (inbound outbound : Nat) (model : α) : Bridge α :=
  ((ofDelays inbound outbound : Bridge α).modelChanged model 0).2

variable (inbound outbound : Nat) (model : α) (text : String)

/-- At first the only text that can be taken for an echo is that of the model, if it was shown at once. -/
theorem lastPushed_opened_eq_some_iff :
    (opened inbound outbound model).lastPushed = some text ↔ outbound = 0 ∧ text = Textual.render model := by
  rcases (ofDelays inbound outbound : Bridge α).modelChanged_cases model 0 with
    ⟨hwaits, -⟩ | ⟨-, hzero, hnext⟩ | ⟨-, hpos, hnext⟩
  · exact absurd rfl hwaits
  · rw [opened, hnext]
    exact ⟨fun hsame => ⟨hzero, (Option.some.inj hsame).symm⟩, fun hsame => congrArg some hsame.2.symm⟩
  · rw [opened, hnext]
    exact ⟨nofun, fun hsame => absurd hsame.1 (Nat.ne_of_gt hpos)⟩

theorem inbound_opened : (opened inbound outbound model).inbound = .ofDelay inbound :=
  inbound_modelChanged model

/-- A model that was shown at once does not wait to be shown. -/
theorem outbound_opened_of_zero : (opened inbound 0 model).outbound.pending = none := by
  rcases (ofDelays inbound 0 : Bridge α).modelChanged_cases model 0 with
    ⟨hwaits, -⟩ | ⟨-, -, hnext⟩ | ⟨-, hpos, -⟩
  · exact absurd rfl hwaits
  · rw [opened, hnext]
    rfl
  · exact absurd hpos (Nat.lt_irrefl 0)

end Bridge

namespace Editor

variable {editor : Editor} {now deadline : Time} {text : String}

/-! ### Settling what was typed -/

theorem settleWithin_of_quiet (hquiet : editor.deadline? = none) (rounds : Nat) (now : Time) :
    settleWithin rounds editor now = ([], now, editor) := by
  cases rounds with
  | zero => rfl
  | succ rounds => rw [settleWithin, hquiet]

theorem settle_of_quiet (hquiet : editor.deadline? = none) (now : Time) : editor.settle now = ([], now, editor) :=
  settleWithin_of_quiet hquiet 4 now

/-- Settling ends with a round that leaves nothing to be done. -/
theorem settle_of_last_round (hdeadline : editor.deadline? = some deadline) (hlater : now ≤ deadline)
    (hquiet : (editor.poll deadline).2.deadline? = none) :
    editor.settle now = ((editor.poll deadline).1, deadline, (editor.poll deadline).2) := by
  -- the number of rounds is kept open, for with a numeral all of them would be unfolded
  have hround : ∀ rounds, settleWithin (rounds + 1) editor now =
      ((editor.poll deadline).1 ++ (settleWithin rounds (editor.poll deadline).2 deadline).1,
        (settleWithin rounds (editor.poll deadline).2 deadline).2) := by
    intro rounds
    simp only [settleWithin, hdeadline, Nat.max_eq_right hlater]
  rw [settle, hround, settleWithin_of_quiet hquiet, List.append_nil]

theorem poll_of_quiet_record (hrecord : editor.recordBridge.deadline? = none) (now : Time) :
    editor.poll now = editor.pollForm now := by
  have hquiet : ∀ time ∈ (editor.pollForm now).2.recordBridge.deadline?, now < time := by
    rw [recordBridge_pollForm, hrecord]
    nofun
  show ((editor.pollForm now).1 ++ ((editor.pollForm now).2.pollRecord now).1,
    ((editor.pollForm now).2.pollRecord now).2) = editor.pollForm now
  rw [pollRecord_of_early hquiet, List.append_nil]

/-- A form that was typed is all that waits. -/
structure HasTyped (editor : Editor) (text : String) (deadline : Time) : Prop where
  record : editor.recordBridge.deadline? = none
  outbound : editor.formBridge.outbound.pending = none
  inbound : editor.formBridge.inbound.pending = some ⟨deadline, text⟩

/-- Settling is then the poll that reads it. -/
theorem HasTyped.settle (htyped : editor.HasTyped text deadline) (hlater : now ≤ deadline) :
    editor.settle now = ((editor.pollForm deadline).1, deadline, (editor.pollForm deadline).2) := by
  have hdeadline : editor.deadline? = some deadline := by
    rw [deadline?, htyped.record, Bridge.deadline?, Debounce.deadline?, Debounce.deadline?, htyped.outbound,
      htyped.inbound]
    rfl
  have hquiet : (editor.pollForm deadline).2.deadline? = none := by
    refine deadline?_eq_none_iff.mpr ⟨?_, ?_⟩
    · rw [formBridge_pollForm, Bridge.poll_of_typed htyped.outbound htyped.inbound]
      refine (Bridge.deadline?_eq_none_iff _).mpr ⟨?_, ?_⟩
      · rw [Bridge.outbound_read, htyped.outbound]
      · rw [Bridge.inbound_read, Debounce.pending_cancel]
    · rw [recordBridge_pollForm, htyped.record]
  rw [← poll_of_quiet_record htyped.record deadline] at hquiet ⊢
  exact settle_of_last_round hdeadline hlater hquiet

theorem HasTyped.pollForm_of_read (htyped : editor.HasTyped text deadline) {form : Form}
    (hread : Form.ofText text = .ok form) :
    editor.pollForm deadline =
      ([.documentReplaced], { editor with form, formBridge := (editor.formBridge.read text).2 }) := by
  have happlied : (editor.formBridge.read text).1 = .applied form :=
    (Bridge.read_eq_applied_iff text).mpr (toOption_eq_some_iff.mpr hread)
  have hpoll : editor.formBridge.poll deadline = (.applied form, (editor.formBridge.read text).2) := by
    rw [Bridge.poll_of_typed htyped.outbound htyped.inbound, ← happlied]
  rw [pollForm, hpoll]

theorem HasTyped.pollForm_of_illegible (htyped : editor.HasTyped text deadline) (hillegible : ¬Form.IsText text) :
    editor.pollForm deadline = ([], { editor with formBridge := (editor.formBridge.read text).2 }) := by
  have hrejected : (editor.formBridge.read text).1 = .rejected := by
    rw [Bridge.outcome_read, SyncOutcome.ofRead, Form.parse?_of_not_isText hillegible]
  have hpoll : editor.formBridge.poll deadline = (.rejected, (editor.formBridge.read text).2) := by
    rw [Bridge.poll_of_typed htyped.outbound htyped.inbound, ← hrejected]
  rw [pollForm, hpoll]

end Editor

namespace Workspace

variable {files : Files} {settings : Settings} {mode : ViewMode} {ids : IdSupply} {workspace : Workspace}
  {text : String}

/-! ### Just opened -/

/-- The bridges of a workspace after nothing but opening it. -/
structure IsJustOpened (workspace : Workspace) (settings : Settings) : Prop where
  form : workspace.editor.formBridge =
    .opened settings.textDebounce settings.modelDebounce workspace.editor.form
  record : workspace.editor.recordBridge = .ofDelays settings.textDebounce settings.modelDebounce

/-- The editor was started on a form, and then it was given records or not. -/
theorem editor_of_ofFiles (hopen : ofFiles files settings mode ids = .ok workspace) :
    ∃ form rest, let started := Editor.start form (settings.config mode) rest 0
      workspace.editor = started ∨ ∃ records, workspace.editor = started.loadRecords records 0 := by
  obtain ⟨⟨form, rest⟩, -, hopen⟩ := eq_ok_of_bind hopen
  refine ⟨form, rest, ?_⟩
  simp only at hopen
  split at hopen
  · cases hopen
    exact Or.inl rfl
  · obtain ⟨records, -, hopen⟩ := eq_ok_of_bind hopen
    cases hopen
    exact Or.inr ⟨records, rfl⟩

theorem isJustOpened_of_ofFiles (hopen : ofFiles files settings mode ids = .ok workspace) :
    workspace.IsJustOpened settings := by
  obtain ⟨form, rest, heditor | ⟨records, heditor⟩⟩ := editor_of_ofFiles hopen
  all_goals
    constructor
    · rw [heditor]
      rfl
    · rw [heditor]
      rfl

/-- A text is taken for an echo if it is that of the form, and forms are shown at once. -/
def IsEcho (workspace : Workspace) (settings : Settings) (text : String) : Prop :=
  settings.modelDebounce = 0 ∧ text = workspace.editor.form.text

variable (hopened : workspace.IsJustOpened settings)
include hopened

theorem IsJustOpened.lastPushed_eq_some_iff :
    workspace.editor.formBridge.lastPushed = some text ↔ workspace.IsEcho settings text := by
  rw [hopened.form]
  exact Bridge.lastPushed_opened_eq_some_iff _ _ _ _

theorem IsJustOpened.deadline?_record : workspace.editor.recordBridge.deadline? = none := by
  rw [hopened.record]
  rfl

/-- Nothing waits after an echo. -/
theorem IsJustOpened.settle_of_echo (hecho : workspace.IsEcho settings text) :
    (workspace.editor.formTextChanged text 0).settle 0 = ([], 0, workspace.editor.formTextChanged text 0) := by
  have hrecord : (workspace.editor.formTextChanged text 0).recordBridge.deadline? = none := hopened.deadline?_record
  have houtbound : workspace.editor.formBridge.outbound.pending = none := by
    rw [hopened.form, hecho.1]
    exact Bridge.outbound_opened_of_zero settings.textDebounce workspace.editor.form
  have hinbound : workspace.editor.formBridge.inbound.pending = none := by
    rw [hopened.form, Bridge.inbound_opened]
    rfl
  refine Editor.settle_of_quiet (Editor.deadline?_eq_none_iff.mpr ⟨?_, hrecord⟩) 0
  rcases workspace.editor.formBridge.editText_cases text 0 with ⟨-, hnext⟩ | ⟨hnew, -⟩
  · rw [Editor.formTextChanged, hnext]
    exact (Bridge.deadline?_eq_none_iff _).mpr ⟨houtbound, hinbound⟩
  · exact absurd (hopened.lastPushed_eq_some_iff.mpr hecho) hnew

theorem IsJustOpened.hasTyped (hnew : ¬workspace.IsEcho settings text) :
    (workspace.editor.formTextChanged text 0).HasTyped text settings.textDebounce := by
  rcases workspace.editor.formBridge.editText_cases text 0 with ⟨hecho, -⟩ | ⟨-, hnext⟩
  · exact absurd (hopened.lastPushed_eq_some_iff.mp hecho) hnew
  · rw [Editor.formTextChanged, hnext, hopened.form, Bridge.inbound_opened]
    refine ⟨hopened.deadline?_record, rfl, ?_⟩
    rw [Debounce.pending_schedule, Nat.zero_add]
    rfl

/-! ### The answers -/

omit hopened

/-- The answer that a form was taken from the text. -/
def acceptance (workspace : Workspace) (form : Form) (waited : Time) : Report where
  message := s!"applied: {Decimal.string form.sections.length} section(s)"
  saving := some { workspace.saving with form }
  waited
  ids := workspace.editor.ids

/-- The answer that none was. -/
def refusal (workspace : Workspace) (waited : Time) : Report :=
  workspace.unsaved "rejected: text did not parse; document unchanged" waited

/-- The form after a text was typed and nothing waits any more. -/
def formAfter (workspace : Workspace) (text : String) : Form :=
  ((workspace.editor.formTextChanged text 0).settle 0).2.2.form

include hopened

theorem IsJustOpened.syncForm_of_read (hnew : ¬workspace.IsEcho settings text) {form : Form}
    (hread : Form.ofText text = .ok form) :
    workspace.syncForm text = workspace.acceptance form settings.textDebounce ∧
      workspace.formAfter text = form := by
  have htyped := hopened.hasTyped hnew
  have hsettle := htyped.settle (Nat.zero_le _)
  rw [htyped.pollForm_of_read hread] at hsettle
  unfold syncForm formAfter
  rw [hsettle]
  exact ⟨if_pos (List.mem_singleton.mpr rfl), rfl⟩

theorem IsJustOpened.syncForm_of_illegible (hnew : ¬workspace.IsEcho settings text)
    (hillegible : ¬Form.IsText text) :
    workspace.syncForm text = workspace.refusal settings.textDebounce ∧
      workspace.formAfter text = workspace.editor.form := by
  have htyped := hopened.hasTyped hnew
  have hsettle := htyped.settle (Nat.zero_le _)
  rw [htyped.pollForm_of_illegible hillegible] at hsettle
  unfold syncForm formAfter
  rw [hsettle]
  exact ⟨if_neg List.not_mem_nil, rfl⟩

theorem IsJustOpened.syncForm_of_echo (hecho : workspace.IsEcho settings text) :
    workspace.syncForm text = workspace.refusal 0 ∧ workspace.formAfter text = workspace.editor.form := by
  unfold syncForm formAfter
  rw [hopened.settle_of_echo hecho]
  exact ⟨if_neg List.not_mem_nil, rfl⟩

omit hopened

/-- **A form is taken from every text that holds one, but for the text of the form itself.** In a workspace
that was just opened, the sync of a form saves something if and only if the text holds a form and is not taken
for an echo. It then answers that it applied the text: the form becomes the one that was read, and is saved
along with the records as they are. Otherwise it answers that the text did not parse, saves nothing and leaves the
form as it was. -/
theorem syncForm_applies_iff (hopen : ofFiles files settings mode ids = .ok workspace) (text : String) :
    ((workspace.syncForm text).saving.isSome ↔ Form.IsText text ∧ ¬workspace.IsEcho settings text) ∧
    (∀ form, Form.ofText text = .ok form → ¬workspace.IsEcho settings text →
      workspace.syncForm text = workspace.acceptance form settings.textDebounce ∧
        workspace.formAfter text = form) ∧
    (¬(Form.IsText text ∧ ¬workspace.IsEcho settings text) →
      (∃ waited, workspace.syncForm text = workspace.refusal waited) ∧
        workspace.formAfter text = workspace.editor.form) := by
  have hopened := isJustOpened_of_ofFiles hopen
  by_cases hecho : workspace.IsEcho settings text
  · obtain ⟨hanswer, hform⟩ := hopened.syncForm_of_echo hecho
    refine ⟨?_, fun _ _ hnew => absurd hecho hnew, fun _ => ⟨⟨0, hanswer⟩, hform⟩⟩
    rw [hanswer]
    exact ⟨nofun, fun hreads => absurd hecho hreads.2⟩
  · by_cases htext : Form.IsText text
    · obtain ⟨form, hread⟩ := htext
      have happlied := hopened.syncForm_of_read hecho hread
      refine ⟨?_, ?_, fun hnot => absurd ⟨⟨form, hread⟩, hecho⟩ hnot⟩
      · rw [happlied.1]
        exact ⟨fun _ => ⟨⟨form, hread⟩, hecho⟩, fun _ => rfl⟩
      · rintro other hother -
        cases hread.symm.trans hother
        exact happlied
    · obtain ⟨hanswer, hform⟩ := hopened.syncForm_of_illegible hecho htext
      refine ⟨?_, fun form hread => absurd ⟨form, hread⟩ htext, fun _ => ⟨⟨_, hanswer⟩, hform⟩⟩
      rw [hanswer]
      exact ⟨nofun, fun hreads => absurd hreads.1 htext⟩

end Workspace

namespace Invocation

/-- Another form is taken from its text. -/
theorem short_form_applied :
    let workspace := oneFieldWorkspace "a"
    Workspace.ofFiles (oneFieldFolder "a").look (submitSeven "a").settings .editor ⟨0⟩ = .ok workspace ∧
      workspace.syncForm Editor.shortText = workspace.acceptance Editor.shortForm 500 ∧
      workspace.formAfter Editor.shortText = Editor.shortForm := by
  intro workspace
  have hopen := ofFiles_oneFieldFolder "a"
  have hnew : ¬workspace.IsEcho (submitSeven "a").settings Editor.shortText := by
    rintro ⟨-, hsame⟩
    have hread : Form.ofText Editor.shortText = .ok (oneFieldForm "a") := by
      rw [hsame]
      exact ofText_oneFieldForm "a"
    have hforms : Editor.shortForm = oneFieldForm "a" :=
      Except.ok.inj (Editor.ofText_shortText.symm.trans hread)
    exact absurd (congrArg (·.sections.length) hforms) (by decide)
  exact ⟨hopen, (Workspace.syncForm_applies_iff hopen Editor.shortText).2.1 _ Editor.ofText_shortText hnew⟩

/-- **The text of the form itself is reported as one that did not parse**, although it holds the form. -/
theorem own_text_refused :
    let workspace := oneFieldWorkspace "a"
    let text := (oneFieldForm "a").text
    Workspace.ofFiles (oneFieldFolder "a").look (submitSeven "a").settings .editor ⟨0⟩ = .ok workspace ∧
      Form.ofText text = .ok (oneFieldForm "a") ∧ workspace.editor.form = oneFieldForm "a" ∧
      (workspace.syncForm text).saving = none ∧
      (workspace.syncForm text).message = "rejected: text did not parse; document unchanged" := by
  intro workspace text
  have hopen := ofFiles_oneFieldFolder "a"
  have hecho : workspace.IsEcho (submitSeven "a").settings text := ⟨rfl, rfl⟩
  have hanswer := ((Workspace.isJustOpened_of_ofFiles hopen).syncForm_of_echo hecho).1
  refine ⟨hopen, ofText_oneFieldForm "a", rfl, ?_, ?_⟩
  · exact congrArg (·.saving) hanswer
  · exact congrArg (·.message) hanswer

end Invocation

end FormEditor
