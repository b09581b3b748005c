import FormEditor.Proofs.Sync.Call

/-! Which way texts wait in a bridge. Typing takes away what waits to be shown, and no change of the
model is taken up while typed text waits, so the two never wait together. As long as typed text waits
there is nothing to show, and changes of the model, polls and flushes leave the surface alone. -/

namespace FormEditor.Bridge

variable {α : Type}

/-- What can happen to a bridge: a call, or a change that the user makes to the surface and that has not
been reported yet. -/
inductive Event (α : Type) where
  | call (call : Call α)
  | typed (text : String)

/-- Whether a call neither types nor orders a text to be shown. -/
def Call.isRoutine : Call α → Bool
  | .modelChanged .. | .poll _ | .flush => true
  | _ => false

/-- Texts wait in one direction at most. -/
def OneWay (bridge : Bridge α) : Prop :=
  bridge.outbound.pending = none ∨ bridge.inbound.pending = none

variable [Textual α]

def handle (bridge : Bridge α) : Event α → Bridge α
  | .call call => (bridge.perform call).2
  | .typed text => { bridge with surface := bridge.surface.type text }

/-- The bridge after a sequence of events. -/
def handleAll (bridge : Bridge α) (events : List (Event α)) : Bridge α :=
  events.foldl handle bridge

variable {bridge : Bridge α}

/-! ### One direction -/

theorem OneWay.perform (honeWay : bridge.OneWay) (call : Call α) : (bridge.perform call).2.OneWay := by
  cases call with
  | modelChanged model now =>
      change (bridge.modelChanged model now).2.OneWay
      rcases bridge.modelChanged_cases model now with
        ⟨-, hnext⟩ | ⟨hinbound, -, hnext⟩ | ⟨hinbound, -, hnext⟩
      · rw [hnext]
        exact honeWay
      · rw [hnext]
        exact Or.inr hinbound
      · rw [hnext]
        exact Or.inr hinbound
  | editText text now =>
      change (bridge.editText text now).OneWay
      rcases bridge.editText_cases text now with ⟨-, hnext⟩ | ⟨-, hnext⟩
      · rw [hnext]
        exact honeWay
      · rw [hnext]
        exact Or.inl rfl
  | textChanged now =>
      change (bridge.textChanged now).OneWay
      rcases bridge.textChanged_cases now with ⟨-, hnext⟩ | ⟨-, hnext⟩
      · rw [hnext]
        exact honeWay
      · rw [hnext]
        exact Or.inl rfl
  | poll now =>
      change (bridge.poll now).2.OneWay
      rcases bridge.poll_cases now with ⟨_, _, -, -, hnext⟩ | ⟨_, _, -, -, hnext⟩ | ⟨-, -, hnext⟩
      · rw [hnext]
        exact Or.inl rfl
      · rw [hnext]
        exact Or.inr (by simp)
      · rw [hnext]
        exact honeWay
  | flush =>
      change bridge.flush.2.OneWay
      rcases bridge.flush_cases with ⟨-, hnext⟩ | ⟨_, _, -, hnext⟩
      · rw [hnext]
        exact honeWay
      · rw [hnext]
        exact Or.inr (by simp)
  | showModel model => exact Or.inl rfl
  | showText text => exact Or.inl rfl

theorem OneWay.handle (honeWay : bridge.OneWay) (event : Event α) : (bridge.handle event).OneWay := by
  cases event with
  | call call => exact honeWay.perform call
  | typed text => exact honeWay

theorem OneWay.handleAll (events : List (Event α)) :
    ∀ {bridge : Bridge α}, bridge.OneWay → (bridge.handleAll events).OneWay := by
  induction events with
  | nil => exact fun honeWay => honeWay
  | cons event events ih => exact fun honeWay => ih (honeWay.handle event)

/-! ### While typed text waits -/

/-- A routine call passes by typed text that waits, or reads it; the surface stays as it is. -/
theorem OneWay.perform_routine (honeWay : bridge.OneWay) (hwaits : bridge.inbound.pending ≠ none)
    {call : Call α} (hroutine : call.isRoutine) :
    (bridge.perform call).2 = bridge ∨
      ((bridge.perform call).2.inbound.pending = none ∧
        (bridge.perform call).2.surface = bridge.surface) := by
  have hnothing : bridge.outbound.pending = none := honeWay.resolve_right hwaits
  cases call with
  | modelChanged model now =>
      rcases bridge.modelChanged_cases model now with ⟨-, hnext⟩ | ⟨hinbound, -⟩ | ⟨hinbound, -⟩
      · exact Or.inl (congrArg Prod.snd hnext)
      · exact absurd hinbound hwaits
      · exact absurd hinbound hwaits
  | poll now =>
      change (bridge.poll now).2 = bridge ∨
        ((bridge.poll now).2.inbound.pending = none ∧ (bridge.poll now).2.surface = bridge.surface)
      rcases bridge.poll_cases now with ⟨_, _, hpush, -⟩ | ⟨_, _, -, -, hnext⟩ | ⟨-, -, hnext⟩
      · cases hnothing.symm.trans hpush
      · rw [hnext]
        exact Or.inr ⟨by simp, bridge.surface_read _⟩
      · exact Or.inl (congrArg Prod.snd hnext)
  | flush =>
      change bridge.flush.2 = bridge ∨
        (bridge.flush.2.inbound.pending = none ∧ bridge.flush.2.surface = bridge.surface)
      rcases bridge.flush_cases with ⟨-, hnext⟩ | ⟨_, _, -, hnext⟩
      · exact Or.inl (congrArg Prod.snd hnext)
      · rw [hnext]
        exact Or.inr ⟨by simp, bridge.surface_read _⟩
  | editText | textChanged | showModel | showText => cases hroutine

/-- A routine call puts no typed text into the queue. -/
theorem inbound_perform_of_none (hinbound : bridge.inbound.pending = none) {call : Call α}
    (hroutine : call.isRoutine) : (bridge.perform call).2.inbound.pending = none := by
  cases call with
  | modelChanged model now =>
      change (bridge.modelChanged model now).2.inbound.pending = none
      rcases bridge.modelChanged_cases model now with ⟨-, hnext⟩ | ⟨-, -, hnext⟩ | ⟨-, -, hnext⟩ <;>
        rw [hnext] <;> exact hinbound
  | poll now =>
      change (bridge.poll now).2.inbound.pending = none
      rcases bridge.poll_cases now with ⟨_, _, -, -, hnext⟩ | ⟨_, _, hedit, -⟩ | ⟨-, -, hnext⟩
      · rw [hnext]
        exact hinbound
      · cases hinbound.symm.trans hedit
      · rw [hnext]
        exact hinbound
  | flush =>
      change bridge.flush.2.inbound.pending = none
      rcases bridge.flush_cases with ⟨-, hnext⟩ | ⟨_, _, hedit, -⟩
      · rw [hnext]
        exact hinbound
      · cases hinbound.symm.trans hedit
  | editText | textChanged | showModel | showText => cases hroutine

theorem inbound_run_of_none {calls : List (Call α)} (hroutine : ∀ call ∈ calls, call.isRoutine) :
    ∀ {bridge : Bridge α}, bridge.inbound.pending = none → (bridge.run calls).inbound.pending = none := by
  induction calls with
  | nil => exact fun hinbound => hinbound
  | cons call calls ih =>
      obtain ⟨hcall, hcalls⟩ := List.forall_mem_cons.mp hroutine
      exact fun hinbound => ih hcalls (inbound_perform_of_none hinbound hcall)

/-- Typed text that still waits after routine calls was passed by in all of them. -/
theorem OneWay.run_routine {calls : List (Call α)} (hroutine : ∀ call ∈ calls, call.isRoutine)
    (honeWay : bridge.OneWay) (hwaits : (bridge.run calls).inbound.pending ≠ none) :
    bridge.run calls = bridge := by
  induction calls with
  | nil => rfl
  | cons call calls ih =>
      obtain ⟨hcall, hcalls⟩ := List.forall_mem_cons.mp hroutine
      have hwaited : bridge.inbound.pending ≠ none := fun hnone =>
        hwaits (inbound_run_of_none hroutine hnone)
      rcases honeWay.perform_routine hwaited hcall with hsame | ⟨hread, -⟩
      · have hrest : bridge.run (call :: calls) = bridge.run calls := congrArg (·.run calls) hsame
        rw [hrest] at hwaits ⊢
        exact ih hcalls hwaits
      · exact absurd (inbound_run_of_none hcalls hread) hwaits

/-- Changes of the model do not end the waiting, however many there are. -/
theorem run_modelChanged_of_waiting (hwaits : bridge.inbound.pending ≠ none) (changes : List (α × Time)) :
    bridge.run (changes.map fun change => .modelChanged change.1 change.2) = bridge := by
  induction changes with
  | nil => rfl
  | cons change changes ih =>
      rcases bridge.modelChanged_cases change.1 change.2 with ⟨-, hnext⟩ | ⟨hinbound, -⟩ | ⟨hinbound, -⟩
      · have hsame : (bridge.perform (.modelChanged change.1 change.2)).2 = bridge := congrArg Prod.snd hnext
        rw [List.map_cons, run, List.foldl_cons, hsame]
        exact ih
      · exact absurd hinbound hwaits
      · exact absurd hinbound hwaits

/-- **Only one direction waits, and typed text that waits keeps the surface.** Whatever has happened to a
bridge, with whatever delays, it does not hold both a text to be shown and a typed one. While a typed one
waits, changes of the model leave the bridge as it is, however many there are; and after routine calls that
have not read it, no further one changes the text on the surface. -/
theorem typed_text_waits_alone (surface : Surface) (inbound outbound : Nat) (events : List (Event α)) :
    let bridge := (ofSurface surface inbound outbound : Bridge α).handleAll events
    (bridge.outbound.pending = none ∨ bridge.inbound.pending = none) ∧
    (bridge.inbound.pending ≠ none → ∀ changes : List (α × Time),
      bridge.run (changes.map fun change => .modelChanged change.1 change.2) = bridge) ∧
    ∀ calls : List (Call α), (∀ call ∈ calls, call.isRoutine) →
      (bridge.run calls).inbound.pending ≠ none →
      ∀ call : Call α, call.isRoutine →
        ((bridge.run calls).perform call).2.surface.text = bridge.surface.text := by
  intro bridge
  have honeWay : bridge.OneWay := OneWay.handleAll events (Or.inl rfl)
  refine ⟨honeWay, run_modelChanged_of_waiting, ?_⟩
  intro calls hroutine hwaits call hcall
  have hsame : bridge.run calls = bridge := honeWay.run_routine hroutine hwaits
  rw [hsame] at hwaits ⊢
  rcases honeWay.perform_routine hwaits hcall with hpassed | ⟨-, hsurface⟩
  · rw [hpassed]
  · rw [hsurface]

/-- A record waits to be shown until the user types; then a change of the record and a poll that reads the
typed text leave it on the surface. -/
theorem typed_text_kept :
    let events : List (Event Record) :=
      [.call (.modelChanged ⟨1, .empty⟩ 0), .typed "\x7b\"id\":2\x7d", .call (.textChanged 10)]
    let bridge := (ofSurface .empty 500 100 : Bridge Record).handleAll events
    let calls : List (Call Record) := [.modelChanged ⟨3, .empty⟩ 20, .poll 30]
    (∀ call ∈ calls, call.isRoutine) ∧ (bridge.run calls).inbound.pending ≠ none ∧
      ((bridge.run calls).perform (.poll 510)).2.surface.text = "\x7b\"id\":2\x7d" := by
  intro events bridge calls
  have hroutine : ∀ call ∈ calls, call.isRoutine := by decide
  have hwaits : (bridge.run calls).inbound.pending ≠ none := by decide +kernel
  have hkept := (typed_text_waits_alone .empty 500 100 events).2.2 calls hroutine hwaits (.poll 510) rfl
  exact ⟨hroutine, hwaits, hkept.trans (by decide +kernel)⟩

end FormEditor.Bridge
