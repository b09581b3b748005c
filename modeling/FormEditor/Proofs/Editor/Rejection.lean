import FormEditor.Pattern.Standard
import FormEditor.Proofs.Editor.Frame
import FormEditor.Proofs.Editor.Settle
import FormEditor.Proofs.Form.RoundTrip
import FormEditor.Proofs.Sync.Remembered

/-! Typed text that cannot be read. The texts that the bridge of the form takes for its own can all be
read: it showed them for a form, or read them. So a text that cannot be read is never taken for an echo.
It takes the place of whatever was waiting, and when its time comes it is refused. -/

namespace FormEditor

/-- A text that holds a form. -/
def Form.IsText (text : String) : Prop :=
  ∃ form, Form.ofText text = .ok form

theorem Form.IsSound.isText {form : Form} (hsound : form.IsSound) (hintegral : form.IsIntegral) :
    Form.IsText form.text :=
  ⟨form, hsound.ofText_text hintegral⟩

theorem Form.parse?_of_not_isText {text : String} (htext : ¬Form.IsText text) :
    (Textual.parse? text : Option Form) = none := by
  refine Option.eq_none_iff_forall_ne_some.mpr ?_
  intro form hform
  exact htext ⟨form, toOption_eq_some_iff.mp hform⟩

namespace Editor

variable {editor : Editor} {now : Time}

/-! ### What is remembered can be read -/

/-- What the bridge of the form takes for its own text can be read. -/
def RemembersLegibly (editor : Editor) : Prop :=
  editor.formBridge.Remembers Form.IsText

theorem remembersLegibly_start {form : Form} (hlegible : Form.IsText form.text) (config : EditorConfig)
    (ids : IdSupply) (now : Time) : (start form config ids now).RemembersLegibly :=
  (Bridge.remembers_ofDelays _ _ _).modelChanged hlegible now

theorem RemembersLegibly.poll (hremembers : editor.RemembersLegibly) (now : Time) :
    (editor.poll now).2.RemembersLegibly := by
  unfold RemembersLegibly
  rw [formBridge_poll]
  refine Bridge.Remembers.poll hremembers ?_ now
  intro text form hread
  exact ⟨form, toOption_eq_some_iff.mp hread⟩

theorem RemembersLegibly.of_editsForm {next : Editor} (hremembers : editor.RemembersLegibly)
    (hedits : editor.EditsForm now next) (hlegible : Form.IsText next.form.text) : next.RemembersLegibly := by
  have hrendered : Form.IsText (Textual.render next.form) := hlegible
  unfold RemembersLegibly
  rcases hedits.form with ⟨-, hsame⟩ | hpublished
  · rw [hsame]
    exact hremembers
  · rw [hpublished]
    exact Bridge.Remembers.modelChanged hremembers hrendered now

/-- A step remembers legibly if the form that it leads to is legible. -/
theorem RemembersLegibly.perform [PatternEngine] (hremembers : editor.RemembersLegibly) (operation : Operation)
    (now : Time) (hlegible : Form.IsText (editor.perform operation now).2.form.text) :
    (editor.perform operation now).2.RemembersLegibly := by
  rcases editor.perform_cases operation now with hedits | huses | ⟨text, rfl⟩ | rfl | rfl
  · exact hremembers.of_editsForm hedits hlegible
  · unfold RemembersLegibly
    rw [huses.formBridge]
    exact hremembers
  · exact Bridge.Remembers.editText hremembers text now
  · exact hremembers.poll now
  · exact settle_keeps (fun now hremembers => hremembers.poll now) now hremembers

/-- A run remembers legibly if every form on its way is legible. -/
theorem RemembersLegibly.run [PatternEngine] {steps : List (Operation × Time)} :
    ∀ {editor : Editor}, editor.RemembersLegibly →
      (∀ done, done <+: steps → Form.IsText (editor.run done).form.text) → (editor.run steps).RemembersLegibly := by
  induction steps with
  | nil => exact fun hremembers _ => hremembers
  | cons step steps ih =>
      intro editor hremembers hlegible
      have hfirst : Form.IsText (editor.perform step.1 step.2).2.form.text :=
        hlegible [step] (List.prefix_append [step] steps)
      refine ih (hremembers.perform step.1 step.2 hfirst) ?_
      intro done hdone
      exact hlegible (step :: done) ((List.prefix_cons_inj step).mpr hdone)

/-! ### Refusing a text -/

/-- A text that cannot be read waits or was refused, and nothing but the records and the bridges has
changed since an earlier state. -/
structure Refuses (text : String) (editor before : Editor) : Prop where
  nothing_to_show : editor.formBridge.outbound.pending = none
  on_surface : editor.formText = text
  waits : ∀ edit, editor.formBridge.inbound.pending = some edit → edit.item = text
  kept : editor = { before with
    records := editor.records
    formBridge := editor.formBridge
    recordBridge := editor.recordBridge }

variable {text : String} {before : Editor}

theorem Refuses.pollForm (hrefuses : editor.Refuses text before)
    (hillegible : ¬Form.IsText text) (now : Time) :
    (editor.pollForm now).1 = [] ∧ (editor.pollForm now).2.Refuses text before := by
  rcases editor.formBridge.poll_cases now with
    ⟨_, _, hpush, -, -⟩ | ⟨_, typed, hedit, -, hnext⟩ | ⟨-, -, hnext⟩
  · cases hpush.symm.trans hrefuses.nothing_to_show
  · have htyped : typed = text := hrefuses.waits _ hedit
    have hparse : (Textual.parse? typed : Option Form) = none :=
      Form.parse?_of_not_isText (htyped ▸ hillegible)
    have hrejected : editor.formBridge.poll now = (.rejected, (editor.formBridge.read typed).2) := by
      have houtcome : (editor.formBridge.read typed).1 = .rejected := by
        rw [Bridge.outcome_read, SyncOutcome.ofRead, hparse]
      rw [hnext, ← houtcome]
    simp only [Editor.pollForm, hrejected]
    refine ⟨trivial, ?_, ?_, ?_, ?_⟩
    · rw [Bridge.outbound_read]
      exact hrefuses.nothing_to_show
    · rw [Editor.formText, Bridge.surface_read]
      exact hrefuses.on_surface
    · simp
    · rw [hrefuses.kept]
  · simp only [Editor.pollForm, hnext]
    exact ⟨trivial, hrefuses.nothing_to_show, hrefuses.on_surface, hrefuses.waits, hrefuses.kept⟩

/-- The bridge of the record reports nothing of the form. -/
theorem documentReplaced_not_mem_adoptOutcome (editor : Editor) (outcome : SyncOutcome Record) :
    .documentReplaced ∉ (editor.adoptOutcome outcome).1 := by
  cases outcome with
  | applied record =>
      cases hreplace : editor.records.replace record <;> simp [adoptOutcome, adoptRecord, hreplace]
  | idle | pushed | rejected => simp [adoptOutcome]

theorem Refuses.poll (hrefuses : editor.Refuses text before)
    (hillegible : ¬Form.IsText text) (now : Time) :
    .documentReplaced ∉ (editor.poll now).1 ∧ (editor.poll now).2.Refuses text before := by
  obtain ⟨hactions, hform⟩ := hrefuses.pollForm hillegible now
  refine ⟨?_, ?_⟩
  · change .documentReplaced ∉ (editor.pollForm now).1 ++ ((editor.pollForm now).2.pollRecord now).1
    rw [hactions, List.nil_append]
    exact documentReplaced_not_mem_adoptOutcome _ _
  · change ((editor.pollForm now).2.pollRecord now).2.Refuses text before
    obtain ⟨records, recordBridge, hnext⟩ := (editor.pollForm now).2.pollRecord_eq now
    rw [hnext]
    refine ⟨hform.nothing_to_show, hform.on_surface, hform.waits, ?_⟩
    rw [hform.kept]

theorem Refuses.settle (hrefuses : editor.Refuses text before) (hillegible : ¬Form.IsText text)
    (now : Time) :
    .documentReplaced ∉ (editor.settle now).1 ∧ (editor.settle now).2.2.Refuses text before := by
  refine @settle_reports (fun actions editor => .documentReplaced ∉ actions ∧ editor.Refuses text before)
    ?_ [] editor now ⟨List.not_mem_nil, hrefuses⟩
  rintro actions editor now ⟨hbefore, hrefuses⟩
  obtain ⟨hactions, hnext⟩ := hrefuses.poll hillegible now
  exact ⟨fun hmem => (List.mem_append.mp hmem).elim hbefore hactions, hnext⟩

/-- A text that cannot be read is no echo, so it takes the place of whatever waits. -/
theorem RemembersLegibly.editText_eq (hremembers : editor.RemembersLegibly)
    (hillegible : ¬Form.IsText text) (typed : Time) :
    editor.formBridge.editText text typed =
      { editor.formBridge with
        surface := editor.formBridge.surface.write text
        outbound := editor.formBridge.outbound.cancel
        inbound := editor.formBridge.inbound.schedule text typed } := by
  rcases editor.formBridge.editText_cases text typed with ⟨hecho, -⟩ | ⟨-, hnext⟩
  · exact absurd (hremembers.lastPushed text hecho) hillegible
  · exact hnext

/-- **A text that cannot be read changes nothing.** In any state of any run whose forms can be read back,
typing such a text supersedes what was waiting to be read, and settling reports no new form: the form, the
mode, the overlay, the drag and the entry stay as they were, the text stays on the surface, and nothing is
left to be read. Forms with only integers in their conditions need not be asked for, as they always can be
read back. -/
theorem illegible_text_changes_nothing [PatternEngine] (form : Form) (config : EditorConfig) (ids : IdSupply)
    (now : Time) (steps : List (Operation × Time))
    (hlegible : ∀ done, done <+: steps →
      let shown := ((start form config ids now).run done).form
      ¬(shown.IsSound ∧ shown.IsIntegral) → Form.IsText shown.text)
    {text : String} (hillegible : ¬Form.IsText text) (typed later : Time) :
    let editor := (start form config ids now).run steps
    let typing := editor.formTextChanged text typed
    let after := (typing.settle later).2.2
    typing.formBridge.inbound.pending.map (·.item) = some text ∧
    .documentReplaced ∉ (typing.settle later).1 ∧
    after.form = editor.form ∧ after.mode = editor.mode ∧ after.overlay = editor.overlay ∧
    after.drag = editor.drag ∧ after.entry = editor.entry ∧
    after.formText = text ∧ after.formBridge.inbound.pending = none := by
  intro editor typing after
  have hshown : ∀ done, done <+: steps →
      Form.IsText ((start form config ids now).run done).form.text := by
    intro done hdone
    by_cases hplain : ((start form config ids now).run done).form.IsSound ∧
        ((start form config ids now).run done).form.IsIntegral
    · exact hplain.1.isText hplain.2
    · exact hlegible done hdone hplain
  have hremembers : editor.RemembersLegibly :=
    (remembersLegibly_start (hshown [] List.nil_prefix) config ids now).run hshown
  have hbridge := hremembers.editText_eq hillegible typed
  have htyping : typing.Refuses text editor := by
    refine ⟨?_, ?_, ?_, rfl⟩
    · exact congrArg (·.outbound.pending) hbridge
    · exact congrArg (·.surface.text) hbridge
    · intro edit hedit
      have hqueued : typing.formBridge.inbound.pending = some ⟨_, text⟩ :=
        congrArg (·.inbound.pending) hbridge
      cases hqueued.symm.trans hedit
      rfl
  obtain ⟨hactions, hafter⟩ := htyping.settle hillegible later
  have hquiet := (deadline?_eq_none_iff.mp (typing.deadline?_settle later)).1
  refine ⟨congrArg (·.inbound.pending.map (·.item)) hbridge, hactions, congrArg (·.form) hafter.kept,
    congrArg (·.mode) hafter.kept, congrArg (·.overlay) hafter.kept, congrArg (·.drag) hafter.kept,
    congrArg (·.entry) hafter.kept, hafter.on_surface, ((Bridge.deadline?_eq_none_iff _).mp hquiet).2⟩

/-- A valid text that still waits is superseded by one that breaks off. -/
theorem waiting_text_superseded :
    let config : EditorConfig := { EditorConfig.standard with modelDebounce := 100 }
    let steps : List (Operation × Time) := [(.formTextChanged shortText, 0)]
    let editor := (start (.blank "u") config ⟨0⟩ 0).run steps
    let after := ((editor.formTextChanged "\x7b" 100).settle 100).2.2
    Form.IsText shortText ∧ editor.formBridge.inbound.deadline? = some 500 ∧
      after.form = .blank "u" ∧ after.formText = "\x7b" := by
  intro config steps
  have hblank : ∀ done, done <+: steps →
      ((start (.blank "u") config ⟨0⟩ 0).run done).form = .blank "u" := by
    intro done hdone
    rcases List.prefix_cons_iff.mp hdone with rfl | ⟨rest, rfl, hrest⟩
    · rfl
    · rw [List.prefix_nil.mp hrest]
      decide +kernel
  have hillegible : ¬Form.IsText "\x7b" := by
    rintro ⟨form, hread⟩
    have hnone : (Form.ofText "\x7b").toOption = none := by decide +kernel
    rw [hread] at hnone
    cases hnone
  have hplain : (Form.blank "u").IsSound ∧ (Form.blank "u").IsIntegral := by
    refine ⟨Form.isSound_blank "u", ?_⟩
    intro part hpart row hrow
    cases List.mem_singleton.mp hpart
    cases hrow
  obtain ⟨-, -, hform, -, -, -, -, htext, -⟩ := illegible_text_changes_nothing (.blank "u") config ⟨0⟩ 0
    steps (fun done hdone hother => absurd ((hblank done hdone).symm ▸ hplain) hother) hillegible 100 100
  have hkept := hblank steps (List.prefix_refl steps)
  exact ⟨⟨shortForm, ofText_shortText⟩, by decide +kernel, hform.trans hkept, htext⟩

end Editor

end FormEditor
