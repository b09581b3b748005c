import FormEditor.Pattern.Standard
import FormEditor.Proofs.Editor.Mirror
import FormEditor.Proofs.Result
import FormEditor.Proofs.Sync.Waiting

/-! Settling. Four queues hold at most one text each, and every round of settling takes one out, so four
rounds leave nothing that waits. A valid text that is typed into a quiet form is therefore read by then.
The one exception is a text that was shown before the form last changed: it is taken for an echo. -/

namespace FormEditor.Editor

variable {editor : Editor} {now deadline : Time}

/-! ### What a poll does to the bridges -/

theorem recordBridge_pollForm (editor : Editor) (now : Time) :
    (editor.pollForm now).2.recordBridge = editor.recordBridge := by
  unfold pollForm
  split <;> rfl

theorem formBridge_pollForm (editor : Editor) (now : Time) :
    (editor.pollForm now).2.formBridge = (editor.formBridge.poll now).2 := by
  unfold pollForm
  split <;> simp only [*]

theorem recordBridge_pollRecord (editor : Editor) (now : Time) :
    (editor.pollRecord now).2.recordBridge = (editor.recordBridge.poll now).2 := by
  rcases adoptOutcome_cases { editor with recordBridge := (editor.recordBridge.poll now).2 }
      (editor.recordBridge.poll now).1 with hnext | ⟨_, _, -, -, hnext⟩
  · rw [pollRecord, hnext]
  · rw [pollRecord, hnext]

theorem form_pollRecord (editor : Editor) (now : Time) :
    (editor.pollRecord now).2.form = editor.form ∧
      (editor.pollRecord now).2.formBridge = editor.formBridge := by
  rcases adoptOutcome_cases { editor with recordBridge := (editor.recordBridge.poll now).2 }
      (editor.recordBridge.poll now).1 with hnext | ⟨_, _, -, -, hnext⟩
  · rw [pollRecord, hnext]
    exact ⟨rfl, rfl⟩
  · rw [pollRecord, hnext]
    exact ⟨rfl, rfl⟩

theorem recordBridge_poll (editor : Editor) (now : Time) :
    (editor.poll now).2.recordBridge = (editor.recordBridge.poll now).2 := by
  rw [← recordBridge_pollForm editor now]
  exact recordBridge_pollRecord _ now

theorem formBridge_poll (editor : Editor) (now : Time) :
    (editor.poll now).2.formBridge = (editor.formBridge.poll now).2 := by
  rw [← formBridge_pollForm editor now]
  exact (form_pollRecord _ now).2

/-! ### Every round takes a text -/

/-- The number of texts that wait in the two bridges. -/
def waiting (editor : Editor) : Nat :=
  editor.formBridge.waiting + editor.recordBridge.waiting

theorem waiting_le (editor : Editor) : editor.waiting ≤ 4 :=
  Nat.add_le_add editor.formBridge.waiting_le editor.recordBridge.waiting_le

theorem deadline?_eq_none_iff :
    editor.deadline? = none ↔
      editor.formBridge.deadline? = none ∧ editor.recordBridge.deadline? = none := by
  unfold Editor.deadline?
  cases editor.formBridge.deadline? <;> cases editor.recordBridge.deadline? <;> simp

theorem deadline?_of_waiting_eq_zero (hwaiting : editor.waiting = 0) : editor.deadline? = none := by
  obtain ⟨hform, hrecord⟩ := Nat.add_eq_zero_iff.mp hwaiting
  exact deadline?_eq_none_iff.mpr
    ⟨(Bridge.waiting_eq_zero_iff _).mp hform, (Bridge.waiting_eq_zero_iff _).mp hrecord⟩

/-- The deadline is that of a bridge. -/
theorem deadline?_eq_some (hdeadline : editor.deadline? = some deadline) :
    editor.formBridge.deadline? = some deadline ∨ editor.recordBridge.deadline? = some deadline := by
  unfold Editor.deadline? at hdeadline
  cases hform : editor.formBridge.deadline? with
  | none => exact Or.inr (by simpa only [hform, Option.none_or] using hdeadline)
  | some form =>
      cases hrecord : editor.recordBridge.deadline? with
      | none => exact Or.inl (by simpa only [hform, hrecord, Option.or_none] using hdeadline)
      | some record =>
          rw [hform, hrecord] at hdeadline
          cases hdeadline
          rcases Nat.le_total form record with hle | hle
          · exact Or.inl (by rw [Nat.min_eq_left hle])
          · exact Or.inr (by rw [Nat.min_eq_right hle])

theorem waiting_poll_lt (hdeadline : editor.deadline? = some deadline) (hdue : deadline ≤ now) :
    (editor.poll now).2.waiting < editor.waiting := by
  unfold waiting
  rw [formBridge_poll, recordBridge_poll]
  rcases deadline?_eq_some hdeadline with hform | hrecord
  · exact Nat.add_lt_add_of_lt_of_le (Bridge.waiting_poll_lt hform hdue)
      (editor.recordBridge.waiting_poll_le now)
  · exact Nat.add_lt_add_of_le_of_lt (editor.formBridge.waiting_poll_le now)
      (Bridge.waiting_poll_lt hrecord hdue)

/-- As many rounds as there are texts that wait leave nothing to be done. -/
theorem deadline?_settleWithin (rounds : Nat) :
    ∀ {editor : Editor} (now : Time), editor.waiting ≤ rounds →
      (settleWithin rounds editor now).2.2.deadline? = none := by
  induction rounds with
  | zero => exact fun _ hrounds => deadline?_of_waiting_eq_zero (Nat.le_zero.mp hrounds)
  | succ rounds ih =>
      intro editor now hrounds
      unfold settleWithin
      split
      · assumption
      · rename_i deadline hdeadline
        have hless := waiting_poll_lt hdeadline (Nat.le_max_right now deadline)
        exact ih _ (Nat.le_of_lt_succ (Nat.lt_of_lt_of_le hless hrounds))

theorem deadline?_settle (editor : Editor) (now : Time) : (editor.settle now).2.2.deadline? = none :=
  deadline?_settleWithin 4 now editor.waiting_le

/-! ### Typing a valid text -/

/-- The form becomes a given one with nothing more done than polling: either it is that form and no edit
waits, or the edit that waits is read as that form. The text on the surface stays. -/
structure TendsTo (text : String) (form : Form) (editor : Editor) : Prop where
  nothing_to_show : editor.formBridge.outbound.pending = none
  on_surface : editor.formText = text
  waits : ∀ edit, editor.formBridge.inbound.pending = some edit → Textual.parse? edit.item = some form
  settled : editor.formBridge.inbound.pending = none → editor.form = form

variable {text : String} {form : Form}

theorem TendsTo.pollForm (htends : editor.TendsTo text form) (now : Time) :
    (editor.pollForm now).2.TendsTo text form := by
  rcases editor.formBridge.poll_cases now with
    ⟨_, _, hpush, -, -⟩ | ⟨_, typed, hedit, -, hnext⟩ | ⟨-, -, hnext⟩
  · cases hpush.symm.trans htends.nothing_to_show
  · have hread : (editor.formBridge.read typed).1 = .applied form := by
      rw [Bridge.outcome_read, SyncOutcome.ofRead, htends.waits _ hedit]
    have happlied : editor.formBridge.poll now = (.applied form, (editor.formBridge.read typed).2) := by
      rw [hnext, ← hread]
    simp only [Editor.pollForm, happlied]
    refine ⟨?_, ?_, ?_, fun _ => rfl⟩
    · rw [Bridge.outbound_read]
      exact htends.nothing_to_show
    · rw [Editor.formText, Bridge.surface_read]
      exact htends.on_surface
    · simp
  · simp only [Editor.pollForm, hnext]
    exact ⟨htends.nothing_to_show, htends.on_surface, htends.waits, htends.settled⟩

theorem TendsTo.poll (htends : editor.TendsTo text form) (now : Time) :
    (editor.poll now).2.TendsTo text form := by
  obtain ⟨hform, hbridge⟩ := form_pollRecord (editor.pollForm now).2 now
  have hnext := htends.pollForm now
  refine ⟨?_, ?_, ?_, ?_⟩
  · exact (congrArg (·.outbound.pending) hbridge).trans hnext.nothing_to_show
  · exact (congrArg (·.surface.text) hbridge).trans hnext.on_surface
  · intro edit hedit
    exact hnext.waits edit ((congrArg (·.inbound.pending) hbridge).symm.trans hedit)
  · intro hnone
    exact hform.trans (hnext.settled ((congrArg (·.inbound.pending) hbridge).symm.trans hnone))

/-- Settling brings the form there. -/
theorem TendsTo.settle (htends : editor.TendsTo text form) (now : Time) :
    (editor.settle now).2.2.form = form ∧ (editor.settle now).2.2.formText = text := by
  have hsettled : (editor.settle now).2.2.TendsTo text form :=
    settle_keeps (fun now htends => htends.poll now) now htends
  have hquiet := (deadline?_eq_none_iff.mp (editor.deadline?_settle now)).1
  exact ⟨hsettled.settled ((Bridge.deadline?_eq_none_iff _).mp hquiet).2, hsettled.on_surface⟩

/-- Typed text is on its way to be read, unless it is the text shown last. -/
theorem tendsTo_formTextChanged {read : Form} (houtbound : editor.formBridge.outbound.pending = none)
    (hinbound : editor.formBridge.inbound.pending = none)
    (hread : (Textual.parse? text : Option Form) = some read) (typed : Time) :
    (editor.formTextChanged text typed).TendsTo text
      (if editor.formBridge.lastPushed = some text then editor.form else read) := by
  rcases editor.formBridge.editText_cases text typed with ⟨hecho, hnext⟩ | ⟨hnew, hnext⟩
  · rw [if_pos hecho, formTextChanged, hnext]
    refine ⟨houtbound, rfl, ?_, fun _ => rfl⟩
    intro edit hedit
    cases hinbound.symm.trans hedit
  · rw [if_neg hnew, formTextChanged, hnext]
    refine ⟨rfl, rfl, ?_, nofun⟩
    rintro edit ⟨rfl⟩
    exact hread

/-- **A valid text that is typed into a quiet form becomes the form, unless it is taken for an echo.** In
any state of any run in which no text of the form waits, typing a valid text and settling leaves that
text on the surface. The form is then the one that was read if and only if the text is not the one
shown last, or was that of the form anyway; otherwise the form stays as it was. -/
theorem typed_form_read_iff [PatternEngine] (form : Form) (config : EditorConfig) (ids : IdSupply) (now : Time)
    (steps : List (Operation × Time)) {text : String} {read : Form} (typed later : Time) :
    let editor := (start form config ids now).run steps
    editor.formBridge.outbound.pending = none → editor.formBridge.inbound.pending = none →
    Form.ofText text = .ok read →
    let after := ((editor.formTextChanged text typed).settle later).2.2
    after.formText = text ∧
    (after.form = read ↔ editor.formBridge.lastPushed ≠ some text ∨ editor.form = read) ∧
    (after.form ≠ read → after.form = editor.form) := by
  intro editor houtbound hinbound hread after
  obtain ⟨hform, htext⟩ :=
    (tendsTo_formTextChanged houtbound hinbound (toOption_eq_some_iff.mpr hread) typed).settle later
  refine ⟨htext, ?_⟩
  by_cases hecho : editor.formBridge.lastPushed = some text
  · rw [if_pos hecho] at hform
    rw [show after.form = editor.form from hform]
    exact ⟨⟨Or.inr, fun hcases => hcases.resolve_left (fun hother => hother hecho)⟩, fun _ => rfl⟩
  · rw [if_neg hecho] at hform
    rw [show after.form = read from hform]
    exact ⟨⟨fun _ => Or.inl hecho, fun _ => rfl⟩, fun hother => absurd rfl hother⟩

/-- A short valid text. -/
def shortText : String :=
  "\x7b\"config\":\x7b\"uid\":\"\",\"version\":\"\",\"name\":\"A\"\x7d,\"data\":\x7b\"sections\":[]\x7d\x7d"

/-- The form that it holds. -/
def shortForm : Form :=
  ⟨⟨"", "", "A"⟩, .builtin, []⟩

theorem ofText_shortText : Form.ofText shortText = .ok shortForm :=
  toOption_eq_some_iff.mp (by decide +kernel)

/-- A valid text after one that could not be read. -/
theorem typed_form_read_after_rejection :
    let config : EditorConfig := { EditorConfig.standard with modelDebounce := 100 }
    let steps : List (Operation × Time) := [(.formTextChanged "\x7b", 0), (.settle, 0)]
    let editor := (start (.blank "u") config ⟨0⟩ 0).run steps
    let after := ((editor.formTextChanged shortText 500).settle 500).2.2
    after.form = shortForm ∧ after.formText = shortText := by
  intro config steps
  -- the editor itself stays out of the context: comparing what it is with its name would run it
  obtain ⟨htext, hform, -⟩ := typed_form_read_iff (.blank "u") config ⟨0⟩ 0 steps 500 500
    (by decide +kernel) (by decide +kernel) ofText_shortText
  exact ⟨hform.mpr (Or.inl (by decide +kernel)), htext⟩

/-- **A valid text that was read before is passed over if the form has changed since.** A text is read, one
that cannot be read is typed, and while that waits the form is renamed, which is not shown. The first
text, typed once more, is taken for an echo: the form keeps its new name. -/
theorem valid_text_passed_over :
    let config : EditorConfig := { EditorConfig.standard with modelDebounce := 100 }
    let steps : List (Operation × Time) := [(.formTextChanged shortText, 0), (.settle, 0),
      (.formTextChanged "\x7b", 500), (.rename "B", 500), (.settle, 500)]
    let editor := (start (.blank "u") config ⟨0⟩ 0).run steps
    let after := ((editor.formTextChanged shortText 1000).settle 1000).2.2
    editor.formBridge.outbound.pending = none ∧ editor.formBridge.inbound.pending = none ∧
      Form.ofText shortText = .ok shortForm ∧
      after.form = shortForm.rename "B" ∧ after.form ≠ shortForm := by
  intro config steps
  exact ⟨by decide +kernel, by decide +kernel, ofText_shortText, by decide +kernel, by decide +kernel⟩

end FormEditor.Editor
