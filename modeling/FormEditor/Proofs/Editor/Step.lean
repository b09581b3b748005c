import FormEditor.Proofs.Editor.Frame

/-! Everything that one step of the editor can do: it edits the form, uses the records, types, or runs the
bridges, which replaces the form only by one that was read, and reports it. -/

namespace FormEditor.Editor

variable {editor next middle : Editor} {actions more : List Action}

/-! ### Running the bridges -/

/-- What running the bridges can leave behind. A form that was read is reported. -/
structure Reads (editor : Editor) (actions : List Action) (next : Editor) : Prop where
  form : next.form = editor.form ∨ .documentReplaced ∈ actions ∧ ∃ text, Form.ofText text = .ok next.form
  kept : next =
    { editor with
      form := next.form
      records := next.records
      formBridge := next.formBridge
      recordBridge := next.recordBridge }

theorem Reads.refl : editor.Reads [] editor :=
  ⟨Or.inl rfl, rfl⟩

theorem Reads.trans (hfirst : editor.Reads actions middle) (hsecond : middle.Reads more next) :
    editor.Reads (actions ++ more) next := by
  refine ⟨?_, ?_⟩
  · rcases hsecond.form with hsame | ⟨hreported, hread⟩
    · rw [hsame]
      exact hfirst.form.imp_right fun hread => ⟨List.mem_append_left more hread.1, hread.2⟩
    · exact Or.inr ⟨List.mem_append_right actions hreported, hread⟩
  · rw [hsecond.kept, hfirst.kept]

theorem reads_pollForm (now : Time) : editor.Reads (editor.pollForm now).1 (editor.pollForm now).2 := by
  unfold pollForm
  split
  · rename_i form bridge hpoll
    obtain ⟨text, hread⟩ := Bridge.exists_parse?_of_poll _ (congrArg Prod.fst hpoll)
    exact ⟨Or.inr ⟨List.mem_cons_self, text, toOption_eq_some_iff.mp hread⟩, rfl⟩
  · exact ⟨Or.inl rfl, rfl⟩
  · exact ⟨Or.inl rfl, rfl⟩

theorem reads_pollRecord (now : Time) : editor.Reads (editor.pollRecord now).1 (editor.pollRecord now).2 := by
  obtain ⟨records, bridge, hnext⟩ := editor.pollRecord_eq now
  rw [hnext]
  exact ⟨Or.inl rfl, rfl⟩

theorem reads_poll (now : Time) : editor.Reads (editor.poll now).1 (editor.poll now).2 :=
  (reads_pollForm now).trans (reads_pollRecord now)

theorem reads_settle (now : Time) : editor.Reads (editor.settle now).1 (editor.settle now).2.2 :=
  @settle_reports (fun actions next => editor.Reads actions next) (fun now hreads => hreads.trans (reads_poll now))
    [] editor now .refl

/-! ### Steps -/

/-- What a step can leave behind, given the element whose dialog it opened, the drag after it and the actions it
reports. -/
inductive Step (editor : Editor) : Option Element → Drag → List Action → Editor → Prop where
  | edits {now : Time} {opened : Option Element} {drag : Drag} {actions : List Action} {next : Editor}
      (hedits : editor.Edits now opened drag next) : Step editor opened drag actions next
  | uses {actions : List Action} {next : Editor} (huses : editor.Uses next) :
      Step editor none editor.drag actions next
  | types {actions : List Action} (formBridge : Bridge Form) :
      Step editor none editor.drag actions { editor with formBridge }
  | reads {actions : List Action} {next : Editor} (hreads : editor.Reads actions next) :
      Step editor none editor.drag actions next

/-- **Every operation is a step.** -/
theorem step_perform [PatternEngine] (editor : Editor) (operation : Operation) (now : Time) :
    editor.Step (editor.opens? operation) (editor.dragAfter operation) (editor.perform operation now).1
      (editor.perform operation now).2 := by
  cases operation with
  | setMode mode => exact .uses (.switched editor.records editor.recordBridge mode)
  | pressButton id button => exact .uses (editor.uses_pressButton id button now)
  | loadRecords records => exact .uses (editor.uses_loadRecords records now)
  | setFieldValue fieldId value => exact .uses (editor.uses_setFieldValue fieldId value)
  | submit => exact .uses (editor.uses_submit now)
  | formTextChanged text => exact .types _
  | recordTextChanged text => exact .uses (.same editor.records editor.entry _)
  | poll => exact .reads (reads_poll now)
  | settle => exact .reads (reads_settle now)
  | setPaletteSearch | dragStart | dragOver | dragLeave | dragEnd | drop | dropOnCanvas | deleteElement
  | duplicateElement | morphElement | moveRow | rename | openMenu | closeOverlay | chooseEntry | openDialog
  | changeDraft | changeDraftType | saveDialog | deleteFromDialog | cancelDialog =>
      exact .edits (editor.edits_perform now rfl)

namespace Step

variable {opened : Option Element} {drag : Drag}

/-- The form after a step is edited, if anything, or was read. -/
theorem form (hstep : editor.Step opened drag actions next) :
    editor.form.Change editor.ids editor.draft? next.form next.ids ∨
      .documentReplaced ∈ actions ∧ ∃ text, Form.ofText text = .ok next.form := by
  cases hstep with
  | edits hedits => exact Or.inl hedits.change
  | uses huses => cases huses <;> exact Or.inl .keep
  | types => exact Or.inl .keep
  | reads hreads =>
      have hids : next.ids = editor.ids := by rw [hreads.kept]
      rcases hreads.form with hsame | hread
      · rw [hsame, hids]
        exact Or.inl .keep
      · exact Or.inr hread

/-- A change of the mode keeps the overlay or closes it. -/
theorem layer (hstep : editor.Step opened drag actions next) : editor.Layer opened next.overlay := by
  cases hstep with
  | edits hedits => exact hedits.overlay
  | uses huses =>
      cases huses with
      | same => exact .keep
      | switched records bridge mode =>
          change editor.Layer none (if mode = .editor then editor.overlay else none)
          split
          · exact .keep
          · exact .close
  | types => exact .keep
  | reads hreads =>
      rw [hreads.kept]
      exact .keep

/-- Nothing lies over the form in a mode that a step changes to, unless the form is built in it. -/
theorem mode (hstep : editor.Step opened drag actions next) :
    next.mode = editor.mode ∨ next.mode = .editor ∨ next.overlay = none := by
  cases hstep with
  | edits hedits => exact Or.inl hedits.mode
  | uses huses =>
      cases huses with
      | same => exact Or.inl rfl
      | switched records bridge mode =>
          by_cases heditor : mode = .editor
          · exact Or.inr (Or.inl heditor)
          · exact Or.inr (Or.inr (if_neg heditor))
  | types => exact Or.inl rfl
  | reads hreads => exact Or.inl (by rw [hreads.kept])

theorem drag_eq (hstep : editor.Step opened drag actions next) : next.drag = drag := by
  cases hstep with
  | edits hedits => exact hedits.drag
  | uses huses => cases huses <;> rfl
  | types => rfl
  | reads hreads => rw [hreads.kept]

end Step

end FormEditor.Editor
