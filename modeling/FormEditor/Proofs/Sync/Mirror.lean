import FormEditor.Proofs.Sync.Reading

/-! What a bridge shows of its model. As long as every change of the model is handed to the bridge, its
text is on the surface or waits to be shown there, unless the surface shows what was typed last. A
bridge that shows changes without delay has nothing waiting to be shown. -/

namespace FormEditor.Bridge

variable {α : Type} [Textual α] {typed : Option String} {model : α} {bridge : Bridge α}

/-- How a bridge stands to its model, given the text that was typed last. -/
structure Mirrors (typed : Option String) (model : α) (bridge : Bridge α) : Prop where
  attends : bridge.AttendsEdits typed
  queued : ∀ push, bridge.outbound.pending = some push → push.item = Textual.render model
  shown : bridge.surface.text = Textual.render model ∨ bridge.outbound.pending ≠ none ∨
    typed = some bridge.surface.text

/-- The three places where a text can be looked for. -/
theorem Mirrors.cases (hmirrors : bridge.Mirrors typed model) :
    bridge.surface.text = Textual.render model ∨
    (∃ deadline, bridge.outbound.pending = some ⟨deadline, Textual.render model⟩) ∨
    typed = some bridge.surface.text := by
  rcases hmirrors.shown with hshown | hqueued | htyped
  · exact Or.inl hshown
  · obtain ⟨push, hpush⟩ := Option.ne_none_iff_exists'.mp hqueued
    have hitem := hmirrors.queued push hpush
    exact Or.inr (Or.inl ⟨push.deadline, by rw [hpush, ← hitem]⟩)
  · exact Or.inr (Or.inr htyped)

/-- A shown text needs no more than the text itself. -/
theorem mirrors_of_shown (hattends : bridge.AttendsEdits typed) (houtbound : bridge.outbound.pending = none)
    (hshown : bridge.surface.text = Textual.render model) : bridge.Mirrors typed model := by
  refine ⟨hattends, ?_, Or.inl hshown⟩
  intro push hpush
  rw [houtbound] at hpush
  cases hpush

/-- While typed text is on the surface and nothing waits to be shown, any model will do. -/
theorem mirrors_of_typed (hattends : bridge.AttendsEdits typed) (houtbound : bridge.outbound.pending = none)
    (htyped : typed = some bridge.surface.text) : bridge.Mirrors typed model := by
  refine ⟨hattends, ?_, Or.inr (Or.inr htyped)⟩
  intro push hpush
  rw [houtbound] at hpush
  cases hpush

theorem mirrors_showModel (typed : Option String) (model : α) (bridge : Bridge α) :
    (bridge.showModel model).Mirrors typed model :=
  mirrors_of_shown (attendsEdits_of_none rfl) rfl rfl

/-- A change that is handed to the bridge is mirrored, whatever was mirrored before. -/
theorem AttendsEdits.mirrors_modelChanged (hattends : bridge.AttendsEdits typed) (model : α) (now : Time) :
    (bridge.modelChanged model now).2.Mirrors typed model := by
  rcases bridge.modelChanged_cases model now with
    ⟨hwaits, hnext⟩ | ⟨hinbound, -, hnext⟩ | ⟨hinbound, -, hnext⟩
  · obtain ⟨edit, hedit⟩ := Option.ne_none_iff_exists'.mp hwaits
    rw [hnext]
    exact mirrors_of_typed hattends (hattends edit hedit).nothing_to_show
      (hattends edit hedit).typed_on_surface
  · rw [hnext]
    exact mirrors_of_shown (attendsEdits_of_none hinbound) rfl rfl
  · rw [hnext]
    refine ⟨attendsEdits_of_none hinbound, ?_, Or.inr (Or.inl (by simp))⟩
    rintro push ⟨rfl⟩
    rfl

theorem Mirrors.editText (hmirrors : bridge.Mirrors typed model) (text : String) (now : Time) :
    (bridge.editText text now).Mirrors (some text) model := by
  have hattends := hmirrors.attends.editText text now
  rcases bridge.editText_cases text now with ⟨-, hnext⟩ | ⟨-, hnext⟩
  · rw [hnext] at hattends ⊢
    exact ⟨hattends, hmirrors.queued, Or.inr (Or.inr rfl)⟩
  · rw [hnext] at hattends ⊢
    exact mirrors_of_typed hattends rfl rfl

/-- After an edit was read, the surface shows what was typed last, whatever the model has become. -/
theorem AttendsEdits.mirrors_read (hattends : bridge.AttendsEdits typed) {edit : Scheduled String}
    (hedit : bridge.inbound.pending = some edit) (model : α) :
    (bridge.read edit.item).2.Mirrors typed model := by
  have hbefore := hattends edit hedit
  refine mirrors_of_typed (attendsEdits_read typed bridge edit.item) ?_ ?_
  · rw [outbound_read]
    exact hbefore.nothing_to_show
  · rw [surface_read]
    exact hbefore.typed_on_surface

theorem Mirrors.poll (hmirrors : bridge.Mirrors typed model) (now : Time) :
    (bridge.poll now).2.Mirrors typed model := by
  have hattends := hmirrors.attends.poll now
  rcases bridge.poll_cases now with ⟨_, _, hpush, -, hnext⟩ | ⟨_, _, hedit, -, hnext⟩ | ⟨-, -, hnext⟩
  · rw [hnext] at hattends ⊢
    exact mirrors_of_shown hattends rfl (hmirrors.queued _ hpush)
  · rw [hnext]
    exact hmirrors.attends.mirrors_read hedit model
  · rw [hnext]
    exact hmirrors

theorem AttendsEdits.mirrors_applied (hattends : bridge.AttendsEdits typed) {now : Time} {read : α}
    (happlied : (bridge.poll now).1 = .applied read) (model : α) :
    (bridge.poll now).2.Mirrors typed model := by
  rcases bridge.poll_cases now with ⟨_, _, -, -, hnext⟩ | ⟨_, _, hedit, -, hnext⟩ | ⟨-, -, hnext⟩
  · rw [hnext] at happlied
    cases happlied
  · rw [hnext]
    exact hattends.mirrors_read hedit model
  · rw [hnext] at happlied
    cases happlied

/-! ### Bridges without delay -/

/-- A bridge with a delay, in whose queue nothing waits if there is none. -/
structure Prompt (delay : Nat) (bridge : Bridge α) : Prop where
  delay_eq : bridge.outbound.delay = delay
  pending_eq : delay = 0 → bridge.outbound.pending = none

variable {delay : Nat}

omit [Textual α] in
theorem prompt_ofDelays (inbound outbound : Nat) : (ofDelays inbound outbound : Bridge α).Prompt outbound :=
  ⟨rfl, fun _ => rfl⟩

omit [Textual α] in
theorem Prompt.showText (hprompt : bridge.Prompt delay) (text : String) :
    (bridge.showText text).Prompt delay :=
  ⟨hprompt.delay_eq, fun _ => rfl⟩

theorem Prompt.showModel (hprompt : bridge.Prompt delay) (model : α) :
    (bridge.showModel model).Prompt delay :=
  ⟨hprompt.delay_eq, fun _ => rfl⟩

theorem Prompt.modelChanged (hprompt : bridge.Prompt delay) (model : α) (now : Time) :
    (bridge.modelChanged model now).2.Prompt delay := by
  rcases bridge.modelChanged_cases model now with ⟨-, hnext⟩ | ⟨-, -, hnext⟩ | ⟨-, hpos, hnext⟩
  · rw [hnext]
    exact hprompt
  · rw [hnext]
    exact hprompt.showText _
  · rw [hnext]
    refine ⟨hprompt.delay_eq, fun hzero => ?_⟩
    have hdelay := hprompt.delay_eq
    omega

omit [Textual α] in
theorem Prompt.editText (hprompt : bridge.Prompt delay) (text : String) (now : Time) :
    (bridge.editText text now).Prompt delay := by
  rcases bridge.editText_cases text now with ⟨-, hnext⟩ | ⟨-, hnext⟩
  · rw [hnext]
    exact ⟨hprompt.delay_eq, hprompt.pending_eq⟩
  · rw [hnext]
    exact ⟨hprompt.delay_eq, fun _ => rfl⟩

theorem Prompt.read (hprompt : bridge.Prompt delay) (text : String) : (bridge.read text).2.Prompt delay :=
  ⟨by rw [outbound_read]; exact hprompt.delay_eq, by rw [outbound_read]; exact hprompt.pending_eq⟩

theorem Prompt.poll (hprompt : bridge.Prompt delay) (now : Time) : (bridge.poll now).2.Prompt delay := by
  rcases bridge.poll_cases now with ⟨_, _, -, -, hnext⟩ | ⟨_, _, -, -, hnext⟩ | ⟨-, -, hnext⟩
  · rw [hnext]
    exact hprompt.showText _
  · rw [hnext]
    exact hprompt.read _
  · rw [hnext]
    exact hprompt

theorem Prompt.flush (hprompt : bridge.Prompt delay) : bridge.flush.2.Prompt delay := by
  rcases bridge.flush_cases with ⟨-, hnext⟩ | ⟨_, _, -, hnext⟩
  · rw [hnext]
    exact hprompt
  · rw [hnext]
    exact hprompt.read _

/-- Without a delay and without typing the surface shows the text of the model. -/
theorem Mirrors.surface_eq (hmirrors : bridge.Mirrors none model) (hprompt : bridge.Prompt 0) :
    bridge.surface.text = Textual.render model := by
  rcases hmirrors.shown with hshown | hqueued | htyped
  · exact hshown
  · exact absurd (hprompt.pending_eq rfl) hqueued
  · cases htyped

end FormEditor.Bridge
