import FormEditor.Sync.Bridge

/-! Runs of a bridge. A call is one use of a bridge by those who own the model and the screen, and a
run is a list of calls. Each operation is described here once, by everything it can do to the
surface, the two queues and the text shown last. -/

namespace FormEditor

namespace Debounce

variable {α : Type} {queue : Debounce α}

theorem due_of_pending {deadline : Time} {item : α} (hpending : queue.pending = some ⟨deadline, item⟩)
    (now : Time) :
    queue.due now = if deadline ≤ now then (some item, queue.cancel) else (none, queue) := by
  simp only [due, hpending]

theorem due_of_none (hpending : queue.pending = none) (now : Time) : queue.due now = (none, queue) := by
  simp only [due, hpending]

/-- What waits is given out if its time has come; else nothing happens. -/
theorem due_cases (queue : Debounce α) (now : Time) :
    (∃ waiting, queue.pending = some waiting ∧ waiting.deadline ≤ now ∧
      queue.due now = (some waiting.item, queue.cancel)) ∨
    ((∀ waiting, queue.pending = some waiting → now < waiting.deadline) ∧ queue.due now = (none, queue)) := by
  cases hpending : queue.pending with
  | none => exact Or.inr ⟨nofun, due_of_none hpending now⟩
  | some waiting =>
      have hnext := due_of_pending hpending now
      by_cases hdue : waiting.deadline ≤ now
      · exact Or.inl ⟨waiting, rfl, hdue, by rw [hnext, if_pos hdue]⟩
      · refine Or.inr ⟨?_, by rw [hnext, if_neg hdue]⟩
        rintro other ⟨rfl⟩
        exact Nat.not_le.mp hdue

@[simp] theorem pending_cancel (queue : Debounce α) : queue.cancel.pending = none := rfl

@[simp] theorem pending_schedule (queue : Debounce α) (item : α) (now : Time) :
    (queue.schedule item now).pending = some ⟨now + queue.delay, item⟩ := rfl

theorem cancel_of_none (hpending : queue.pending = none) : queue.cancel = queue := by
  cases queue
  cases hpending
  rfl

end Debounce

/-- The outcome of reading a text. -/
def SyncOutcome.ofRead (α : Type) [Textual α] (text : String) : SyncOutcome α :=
  match (Textual.parse? text : Option α) with
  | some model => .applied model
  | none => .rejected

namespace Bridge

variable {α : Type}

/-- A bridge over a surface with which nothing has happened yet. -/
def ofSurface (surface : Surface) (inbound outbound : Nat) : Bridge α :=
  ⟨surface, .ofDelay outbound, .ofDelay inbound, none⟩

/-- One use of a bridge. -/
inductive Call (α : Type) where
  | modelChanged (model : α) (now : Time)
  | editText (text : String) (now : Time)
  | textChanged (now : Time)
  | poll (now : Time)
  | flush
  | showModel (model : α)
  | showText (text : String)

namespace Call

/-- The text that a call types. -/
def typed? : Call α → Option String
  | .editText text _ => some text
  | _ => none

/-- Whether a call may read typed text. -/
def reads : Call α → Bool
  | .poll _ | .flush => true
  | _ => false

/-- Whether the text on the screen changes only with what a call says of the model or of the keys. A
bare text that is shown and a bare report of a change are the two calls that do not say it. -/
def isDirect : Call α → Bool
  | .showText _ | .textChanged _ => false
  | _ => true

end Call

/-- The texts typed in a run, the latest first, with those typed before it. -/
def typedTexts (before : List String) (calls : List (Call α)) : List String :=
  calls.foldl (fun typed call => call.typed?.toList ++ typed) before

variable [Textual α]

/-- What came of a call, and the bridge after it. -/
def perform (bridge : Bridge α) : Call α → SyncOutcome α × Bridge α
  | .modelChanged model now =>
    let (pushed, next) := bridge.modelChanged model now
    (if pushed then .pushed else .idle, next)
  | .editText text now => (.idle, bridge.editText text now)
  | .textChanged now => (.idle, bridge.textChanged now)
  | .poll now => bridge.poll now
  | .flush => bridge.flush
  | .showModel model => (.pushed, bridge.showModel model)
  | .showText text => (.pushed, bridge.showText text)

/-- The bridge after a run. -/
def run (bridge : Bridge α) (calls : List (Call α)) : Bridge α :=
  calls.foldl (fun bridge call => (bridge.perform call).2) bridge

/-- Takes a typed text out of its queue and reads it. -/
def read (bridge : Bridge α) (text : String) : SyncOutcome α × Bridge α :=
  { bridge with inbound := bridge.inbound.cancel }.apply text

variable (bridge : Bridge α)

/-! ### What reading a text does -/

theorem outcome_read (text : String) : (bridge.read text).1 = .ofRead α text := by
  simp only [read, apply, SyncOutcome.ofRead]
  cases (Textual.parse? text : Option α) <;> rfl

theorem read_ne_pushed (text : String) : (bridge.read text).1 ≠ .pushed := by
  rw [outcome_read, SyncOutcome.ofRead]
  cases (Textual.parse? text : Option α) <;> nofun

@[simp] theorem surface_read (text : String) : (bridge.read text).2.surface = bridge.surface := by
  simp only [read, apply]
  cases (Textual.parse? text : Option α) <;> rfl

@[simp] theorem outbound_read (text : String) : (bridge.read text).2.outbound = bridge.outbound := by
  simp only [read, apply]
  cases (Textual.parse? text : Option α) <;> rfl

@[simp] theorem inbound_read (text : String) :
    (bridge.read text).2.inbound = bridge.inbound.cancel := by
  simp only [read, apply]
  cases (Textual.parse? text : Option α) <;> rfl

/-! ### What each call can do -/

omit [Textual α] in
theorem pushDue_of_due {deadline now : Time} {text : String}
    (hpending : bridge.outbound.pending = some ⟨deadline, text⟩) (hdue : deadline ≤ now) :
    bridge.pushDue now = (true, bridge.showText text) := by
  simp only [pushDue, Debounce.due_of_pending hpending, if_pos hdue]
  rfl

omit [Textual α] in
theorem pushDue_of_waiting {now : Time}
    (hwaiting : ∀ push, bridge.outbound.pending = some push → now < push.deadline) :
    bridge.pushDue now = (false, bridge) := by
  rcases bridge.outbound.due_cases now with ⟨push, hpush, hdue, -⟩ | ⟨-, hnext⟩
  · exact absurd hdue (Nat.not_le.mpr (hwaiting push hpush))
  · simp only [pushDue, hnext]

/-- A change of the model is dropped, shown at once or put into the queue. -/
theorem modelChanged_cases (model : α) (now : Time) :
    (bridge.inbound.pending ≠ none ∧ bridge.modelChanged model now = (false, bridge)) ∨
    (bridge.inbound.pending = none ∧ bridge.outbound.delay = 0 ∧
      bridge.modelChanged model now = (true, bridge.showText (Textual.render model))) ∨
    (bridge.inbound.pending = none ∧ 0 < bridge.outbound.delay ∧
      bridge.modelChanged model now =
        (false, { bridge with outbound := bridge.outbound.schedule (Textual.render model) now })) := by
  cases hinbound : bridge.inbound.pending with
  | some edit =>
      refine Or.inl ⟨by simp, ?_⟩
      rw [modelChanged, if_pos (by simp [Debounce.isPending, hinbound])]
  | none =>
      have hchanged : bridge.modelChanged model now =
          { bridge with
            outbound := bridge.outbound.schedule (Textual.render model) now }.pushDue now := by
        rw [modelChanged, if_neg (by simp [Debounce.isPending, hinbound])]
      rcases Nat.eq_zero_or_pos bridge.outbound.delay with hzero | hpos
      · refine Or.inr (Or.inl ⟨rfl, hzero, ?_⟩)
        rw [hchanged, pushDue_of_due _ rfl (by simp [hzero])]
        rfl
      · refine Or.inr (Or.inr ⟨rfl, hpos, ?_⟩)
        rw [hchanged, pushDue_of_waiting]
        rintro push ⟨rfl⟩
        exact Nat.lt_add_of_pos_right hpos

omit [Textual α] in
/-- A reported change is queued, unless the surface shows the text shown last. -/
theorem textChanged_cases (now : Time) :
    (bridge.lastPushed = some bridge.surface.text ∧ bridge.textChanged now = bridge) ∨
    (bridge.lastPushed ≠ some bridge.surface.text ∧
      bridge.textChanged now =
        { bridge with
          outbound := bridge.outbound.cancel
          inbound := bridge.inbound.schedule bridge.surface.text now }) := by
  by_cases hecho : bridge.lastPushed = some bridge.surface.text
  · exact Or.inl ⟨hecho, by rw [textChanged, if_pos hecho]⟩
  · exact Or.inr ⟨hecho, by rw [textChanged, if_neg hecho]⟩

omit [Textual α] in
/-- Typed text is queued, unless it is the text shown last. -/
theorem editText_cases (text : String) (now : Time) :
    (bridge.lastPushed = some text ∧
      bridge.editText text now = { bridge with surface := bridge.surface.write text }) ∨
    (bridge.lastPushed ≠ some text ∧
      bridge.editText text now =
        { bridge with
          surface := bridge.surface.write text
          outbound := bridge.outbound.cancel
          inbound := bridge.inbound.schedule text now }) :=
  textChanged_cases { bridge with surface := bridge.surface.write text } now

theorem poll_of_waiting {now : Time}
    (hwaiting : ∀ push, bridge.outbound.pending = some push → now < push.deadline) :
    (∃ deadline text, bridge.inbound.pending = some ⟨deadline, text⟩ ∧ deadline ≤ now ∧
      bridge.poll now = bridge.read text) ∨
    ((∀ edit, bridge.inbound.pending = some edit → now < edit.deadline) ∧
      bridge.poll now = (.idle, bridge)) := by
  have hpush := bridge.pushDue_of_waiting hwaiting
  rcases bridge.inbound.due_cases now with ⟨edit, hedit, hdue, hnext⟩ | ⟨hearly, hnext⟩
  · refine Or.inl ⟨edit.deadline, edit.item, hedit, hdue, ?_⟩
    simp only [poll, hpush, hnext]
    rfl
  · exact Or.inr ⟨hearly, by simp only [poll, hpush, hnext]⟩

/-- A poll shows the text whose time has come, or else reads the one whose time has come. -/
theorem poll_cases (now : Time) :
    (∃ deadline text, bridge.outbound.pending = some ⟨deadline, text⟩ ∧ deadline ≤ now ∧
      bridge.poll now = (.pushed, bridge.showText text)) ∨
    (∃ deadline text, bridge.inbound.pending = some ⟨deadline, text⟩ ∧ deadline ≤ now ∧
      bridge.poll now = bridge.read text) ∨
    ((∀ push, bridge.outbound.pending = some push → now < push.deadline) ∧
      (∀ edit, bridge.inbound.pending = some edit → now < edit.deadline) ∧
      bridge.poll now = (.idle, bridge)) := by
  rcases bridge.outbound.due_cases now with ⟨push, hpush, hdue, -⟩ | ⟨hwaiting, -⟩
  · refine Or.inl ⟨push.deadline, push.item, hpush, hdue, ?_⟩
    simp only [poll, bridge.pushDue_of_due hpush hdue]
  · rcases bridge.poll_of_waiting hwaiting with hread | hidle
    · exact Or.inr (Or.inl hread)
    · exact Or.inr (Or.inr ⟨hwaiting, hidle⟩)

theorem flush_cases :
    (bridge.inbound.pending = none ∧ bridge.flush = (.idle, bridge)) ∨
    (∃ deadline text, bridge.inbound.pending = some ⟨deadline, text⟩ ∧ bridge.flush = bridge.read text) := by
  cases hinbound : bridge.inbound.pending with
  | none =>
      refine Or.inl ⟨rfl, ?_⟩
      rw [flush, Debounce.take, hinbound, Option.map_none, Debounce.cancel_of_none hinbound]
  | some edit =>
      refine Or.inr ⟨edit.deadline, edit.item, rfl, ?_⟩
      rw [flush, Debounce.take, hinbound, Option.map_some]
      rfl

/-- Only what was read from a text is applied. -/
theorem exists_parse?_of_read {text : String} {model : α} (hread : (bridge.read text).1 = .applied model) :
    ∃ text, (Textual.parse? text : Option α) = some model := by
  refine ⟨text, ?_⟩
  rw [outcome_read, SyncOutcome.ofRead] at hread
  cases hparse : (Textual.parse? text : Option α) with
  | none =>
      rw [hparse] at hread
      cases hread
  | some other =>
      rw [hparse] at hread
      cases hread
      rfl

theorem exists_parse?_of_poll {model : α} (hpoll : (bridge.poll now).1 = .applied model) :
    ∃ text, (Textual.parse? text : Option α) = some model := by
  rcases bridge.poll_cases now with ⟨_, _, -, -, hnext⟩ | ⟨_, text, -, -, hnext⟩ | ⟨-, -, hnext⟩
  · rw [hnext] at hpoll
    cases hpoll
  · rw [hnext] at hpoll
    exact bridge.exists_parse?_of_read hpoll
  · rw [hnext] at hpoll
    cases hpoll

theorem exists_parse?_of_flush {model : α} (hflush : bridge.flush.1 = .applied model) :
    ∃ text, (Textual.parse? text : Option α) = some model := by
  rcases bridge.flush_cases with ⟨-, hnext⟩ | ⟨_, text, -, hnext⟩
  · rw [hnext] at hflush
    cases hflush
  · rw [hnext] at hflush
    exact bridge.exists_parse?_of_read hflush

end Bridge

end FormEditor
