import FormEditor.Proofs.Sync.Waiting

/-! A bridge and its own writes. The screen reports every change of its text, those too that the bridge made.
While the surface shows the text that the bridge remembers and nothing typed waits, such a report is seen to
be no typing. Everything that writes the surface remembers what it wrote, so this state is left only when the
user types, and no text of the bridge's own ever comes back to it as something to read. -/

namespace FormEditor.Bridge

variable {α : Type}

/-- Whether a call only reports that the text on the surface has changed. -/
def Call.isReport : Call α → Bool
  | .textChanged _ => true
  | _ => false

/-- A bridge whose surface shows the text shown last, and in which nothing typed waits. -/
structure ShowsItsOwn (bridge : Bridge α) : Prop where
  shown : bridge.lastPushed = some bridge.surface.text
  nothing_typed : bridge.inbound.pending = none

variable {bridge : Bridge α}

theorem showsItsOwn_showText (hnothing : bridge.inbound.pending = none) (text : String) :
    (bridge.showText text).ShowsItsOwn :=
  ⟨rfl, hnothing⟩

/-- A report of what the bridge wrote itself is ignored. -/
theorem ShowsItsOwn.textChanged_eq (hshows : bridge.ShowsItsOwn) (now : Time) : bridge.textChanged now = bridge := by
  rcases bridge.textChanged_cases now with ⟨-, hsame⟩ | ⟨hother, -⟩
  · exact hsame
  · exact absurd hshows.shown hother

variable [Textual α]

theorem showsItsOwn_showModel (bridge : Bridge α) (model : α) : (bridge.showModel model).ShowsItsOwn :=
  showsItsOwn_showText rfl _

/-- Whatever shows a text leaves the bridge showing its own, unless typed text waits. -/
theorem showsItsOwn_of_pushed {call : Call α} (hpushed : (bridge.perform call).1 = .pushed)
    (hnothing : (bridge.perform call).2.inbound.pending = none) : (bridge.perform call).2.ShowsItsOwn := by
  refine ⟨?_, hnothing⟩
  cases call with
  | modelChanged model now =>
      rcases bridge.modelChanged_cases model now with ⟨-, hnext⟩ | ⟨-, -, hnext⟩ | ⟨-, -, hnext⟩
      · simp [perform, hnext] at hpushed
      · simp only [perform, hnext]
        rfl
      · simp [perform, hnext] at hpushed
  | poll now =>
      change (bridge.poll now).1 = .pushed at hpushed
      change (bridge.poll now).2.lastPushed = some (bridge.poll now).2.surface.text
      rcases bridge.poll_cases now with ⟨_, _, -, -, hnext⟩ | ⟨_, text, -, -, hnext⟩ | ⟨-, -, hnext⟩
      · rw [hnext]
        rfl
      · rw [hnext] at hpushed
        exact absurd hpushed (bridge.read_ne_pushed text)
      · rw [hnext] at hpushed
        cases hpushed
  | flush => exact absurd hpushed flush_ne_pushed
  | showModel | showText => rfl
  | editText | textChanged => cases hpushed

namespace ShowsItsOwn

/-- Unless the user types, a call reads nothing and leaves the surface with the text shown last. -/
theorem perform (hshows : bridge.ShowsItsOwn) {call : Call α} (huntyped : call.typed? = none) :
    ((bridge.perform call).1 = .idle ∨ (bridge.perform call).1 = .pushed) ∧
      (bridge.perform call).2.ShowsItsOwn := by
  have hnothing : bridge.inbound.pending = none := hshows.nothing_typed
  cases call with
  | modelChanged model now =>
      rcases bridge.modelChanged_cases model now with ⟨hwaits, -⟩ | ⟨-, -, hnext⟩ | ⟨-, -, hnext⟩
      · exact absurd hnothing hwaits
      · simp only [Bridge.perform, hnext]
        exact ⟨Or.inr rfl, showsItsOwn_showText hnothing _⟩
      · simp only [Bridge.perform, hnext]
        exact ⟨Or.inl rfl, hshows.shown, hnothing⟩
  | editText => cases huntyped
  | textChanged now =>
      refine ⟨Or.inl rfl, ?_⟩
      change (bridge.textChanged now).ShowsItsOwn
      rw [hshows.textChanged_eq]
      exact hshows
  | poll now =>
      change ((bridge.poll now).1 = .idle ∨ (bridge.poll now).1 = .pushed) ∧ (bridge.poll now).2.ShowsItsOwn
      rcases bridge.poll_cases now with ⟨_, _, -, -, hnext⟩ | ⟨_, _, hedit, -⟩ | ⟨-, -, hnext⟩
      · rw [hnext]
        exact ⟨Or.inr rfl, showsItsOwn_showText hnothing _⟩
      · cases hnothing.symm.trans hedit
      · rw [hnext]
        exact ⟨Or.inl rfl, hshows⟩
  | flush =>
      change (bridge.flush.1 = .idle ∨ bridge.flush.1 = .pushed) ∧ bridge.flush.2.ShowsItsOwn
      rcases bridge.flush_cases with ⟨-, hnext⟩ | ⟨_, _, hedit, -⟩
      · rw [hnext]
        exact ⟨Or.inl rfl, hshows⟩
      · cases hnothing.symm.trans hedit
  | showModel model => exact ⟨Or.inr rfl, bridge.showsItsOwn_showModel model⟩
  | showText text => exact ⟨Or.inr rfl, showsItsOwn_showText hnothing text⟩

theorem run (hshows : bridge.ShowsItsOwn) {calls : List (Call α)} (huntyped : ∀ call ∈ calls, call.typed? = none) :
    (bridge.run calls).ShowsItsOwn := by
  apply List.foldlRecOn calls _ hshows
  intro bridge hshows call hcall
  exact (hshows.perform (huntyped call hcall)).2

/-- Reports make no difference to a run. -/
theorem run_filter_isReport (hshows : bridge.ShowsItsOwn) {calls : List (Call α)}
    (huntyped : ∀ call ∈ calls, call.typed? = none) :
    bridge.run (calls.filter fun call => !call.isReport) = bridge.run calls := by
  induction calls generalizing bridge with
  | nil => rfl
  | cons call calls ih =>
      obtain ⟨hcall, hcalls⟩ := List.forall_mem_cons.mp huntyped
      have hrest := ih (hshows.perform hcall).2 hcalls
      show bridge.run ((call :: calls).filter fun call => !call.isReport) = (bridge.perform call).2.run calls
      rw [← hrest]
      cases call with
      | textChanged now =>
          have hsame : (bridge.perform (.textChanged now)).2 = bridge := hshows.textChanged_eq now
          rw [hsame]
          rfl
      | modelChanged | editText | poll | flush | showModel | showText => rfl

end ShowsItsOwn

/-- **A bridge does not feed on its own writes.** Whatever shows a text leaves a bridge in which nothing typed
waits with that text on its surface and remembered. From there, as long as the user does not type, every call
reads nothing, nothing comes to wait to be read, and the surface keeps to the text shown last; the reports
that come of the bridge's own writes could as well be left out. -/
theorem own_writes_never_read (bridge : Bridge α) :
    (∀ call, (bridge.perform call).1 = .pushed → (bridge.perform call).2.inbound.pending = none →
      (bridge.perform call).2.ShowsItsOwn) ∧
    (bridge.ShowsItsOwn → ∀ calls : List (Call α), (∀ call ∈ calls, call.typed? = none) →
      (bridge.run calls).inbound.pending = none ∧
      (bridge.run calls).lastPushed = some (bridge.run calls).surface.text ∧
      (∀ call : Call α, call.typed? = none →
        ((bridge.run calls).perform call).1 = .idle ∨ ((bridge.run calls).perform call).1 = .pushed) ∧
      bridge.run (calls.filter fun call => !call.isReport) = bridge.run calls) := by
  refine ⟨fun _ => showsItsOwn_of_pushed, ?_⟩
  intro hshows calls huntyped
  have hafter : (bridge.run calls).ShowsItsOwn := hshows.run huntyped
  refine ⟨hafter.nothing_typed, hafter.shown, ?_, hshows.run_filter_isReport huntyped⟩
  intro call hcall
  exact (hafter.perform hcall).1

/-- A record that is shown after a delay and another one that waits to be shown, with the reports of both
writes: nothing is read, and the surface ends with the second record. -/
theorem delayed_writes_reported :
    let shown := ((ofSurface .empty 500 50 : Bridge Record).run [.modelChanged ⟨1, .empty⟩ 0]).perform (.poll 50)
    let calls : List (Call Record) :=
      [.textChanged 60, .modelChanged ⟨2, .empty⟩ 70, .textChanged 80, .poll 120, .textChanged 130, .flush]
    shown.1 = .pushed ∧ (∀ call ∈ calls, call.typed? = none) ∧
      (shown.2.run calls).inbound.pending = none ∧
      (shown.2.run calls).lastPushed = some (shown.2.run calls).surface.text ∧
      (shown.2.run calls).surface.text = "\x7b\n  \"id\": 2\n\x7d" ∧
      (((shown.2.run calls).perform (.poll 1000)).1 = .idle ∨
        ((shown.2.run calls).perform (.poll 1000)).1 = .pushed) := by
  intro shown calls
  have hpushed : shown.1 = .pushed := by decide +kernel
  have hnothing : shown.2.inbound.pending = none := by decide +kernel
  have huntyped : ∀ call ∈ calls, call.typed? = none := by decide
  have hshows : shown.2.ShowsItsOwn := (own_writes_never_read _).1 (.poll 50) hpushed hnothing
  obtain ⟨hunread, hkept, hquiet, -⟩ := (own_writes_never_read shown.2).2 hshows calls huntyped
  exact ⟨hpushed, huntyped, hunread, hkept, by decide +kernel, hquiet (.poll 1000) rfl⟩

end FormEditor.Bridge
