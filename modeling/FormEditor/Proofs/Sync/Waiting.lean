import FormEditor.Proofs.Sync.Call

/-! What waits in a bridge. Before its time nothing is done with it. A poll adds nothing to the two queues, and
takes a text out of one of them if the time of the first has come. A model that is read is the one that the
waiting text held; unless something is typed, no other text comes to wait. -/

namespace FormEditor

variable {now : Time}

/-- The first of two times, either of which may be missing. -/
def earlier? : Option Time → Option Time → Option Time
  | some first, some second => some (min first second)
  | first, second => first.or second

/-- A time comes before the first of two if it comes before both. -/
theorem forall_lt_earlier?_iff (first second : Option Time) :
    (∀ time ∈ earlier? first second, now < time) ↔ (∀ time ∈ first, now < time) ∧ ∀ time ∈ second, now < time := by
  cases first with
  | none => simp [earlier?]
  | some first =>
      cases second with
      | none => simp [earlier?]
      | some second =>
          simp only [earlier?, Option.mem_some, forall_eq']
          exact Nat.lt_min

theorem Debounce.forall_lt_deadline?_iff {α : Type} (queue : Debounce α) :
    (∀ time ∈ queue.deadline?, now < time) ↔ ∀ waiting ∈ queue.pending, now < waiting.deadline := by
  simp [deadline?]

namespace Bridge

variable {α : Type} (bridge : Bridge α)

/-- The number of texts that wait. -/
def waiting : Nat :=
  bridge.outbound.isPending.toNat + bridge.inbound.isPending.toNat

theorem waiting_le : bridge.waiting ≤ 2 := by
  have houtbound := Bool.toNat_le bridge.outbound.isPending
  have hinbound := Bool.toNat_le bridge.inbound.isPending
  unfold waiting
  omega

theorem deadline?_eq_none_iff :
    bridge.deadline? = none ↔ bridge.outbound.pending = none ∧ bridge.inbound.pending = none := by
  unfold deadline? Debounce.deadline?
  cases bridge.outbound.pending <;> cases bridge.inbound.pending <;> simp

theorem waiting_eq_zero_iff : bridge.waiting = 0 ↔ bridge.deadline? = none := by
  rw [deadline?_eq_none_iff]
  unfold waiting Debounce.isPending
  cases bridge.outbound.pending <;> cases bridge.inbound.pending <;> simp

variable {bridge} {now deadline : Time}

variable (bridge) in
/-- A time comes before the deadline if nothing that waits is due. -/
theorem forall_lt_deadline?_iff :
    (∀ time ∈ bridge.deadline?, now < time) ↔
      (∀ push ∈ bridge.outbound.pending, now < push.deadline) ∧
        ∀ edit ∈ bridge.inbound.pending, now < edit.deadline := by
  rw [← bridge.outbound.forall_lt_deadline?_iff, ← bridge.inbound.forall_lt_deadline?_iff]
  exact forall_lt_earlier?_iff bridge.outbound.deadline? bridge.inbound.deadline?

variable [Textual α] (bridge now)

theorem waiting_poll_le : (bridge.poll now).2.waiting ≤ bridge.waiting := by
  rcases bridge.poll_cases now with ⟨_, _, -, -, hnext⟩ | ⟨_, _, -, -, hnext⟩ | ⟨-, -, hnext⟩
  · rw [hnext]
    exact Nat.add_le_add_right (Nat.zero_le _) _
  · rw [hnext]
    unfold waiting
    rw [outbound_read, inbound_read]
    exact Nat.add_le_add_left (Nat.zero_le _) _
  · refine Nat.le_of_eq ?_
    rw [hnext]

variable {bridge now}

/-- A poll at a time that is due takes a text out of its queue. -/
theorem waiting_poll_lt (hdeadline : bridge.deadline? = some deadline) (hdue : deadline ≤ now) :
    (bridge.poll now).2.waiting < bridge.waiting := by
  rcases bridge.poll_cases now with
    ⟨_, _, hpush, -, hnext⟩ | ⟨_, _, hedit, -, hnext⟩ | ⟨houtbound, hinbound, -⟩
  · rw [hnext]
    refine Nat.add_lt_add_right ?_ _
    rw [Debounce.isPending, Debounce.isPending, hpush]
    exact Nat.zero_lt_one
  · rw [hnext]
    unfold waiting
    rw [outbound_read, inbound_read]
    refine Nat.add_lt_add_left ?_ _
    rw [Debounce.isPending, Debounce.isPending, hedit]
    exact Nat.zero_lt_one
  · have hearly := bridge.forall_lt_deadline?_iff.mpr ⟨houtbound, hinbound⟩
    exact absurd hdue (Nat.not_le.mpr (hearly deadline hdeadline))

/-- Before its deadline a bridge has nothing to do. -/
theorem poll_of_early (hearly : ∀ time ∈ bridge.deadline?, now < time) : bridge.poll now = (.idle, bridge) := by
  obtain ⟨houtbound, hinbound⟩ := bridge.forall_lt_deadline?_iff.mp hearly
  rcases bridge.poll_cases now with ⟨_, _, hpush, hdue, -⟩ | ⟨_, _, hedit, hdue, -⟩ | ⟨-, -, hnext⟩
  · exact absurd hdue (Nat.not_le.mpr (houtbound _ hpush))
  · exact absurd hdue (Nat.not_le.mpr (hinbound _ hedit))
  · exact hnext

/-- A bridge in which nothing waits has nothing to do. -/
theorem poll_of_quiet (hquiet : bridge.isPending = false) : bridge.poll now = (.idle, bridge) := by
  obtain ⟨houtbound, hinbound⟩ := Bool.or_eq_false_iff.mp hquiet
  have hwaiting : bridge.waiting = 0 := by
    rw [waiting, houtbound, hinbound]
    rfl
  have hnone : bridge.deadline? = none := bridge.waiting_eq_zero_iff.mp hwaiting
  refine poll_of_early ?_
  rw [hnone]
  nofun

/-! ### What the waiting text holds -/

variable (bridge) in
/-- The model in the text that waits to be read, if it can be read. -/
def waitingModel? : Option α :=
  bridge.inbound.pending.bind fun edit => Textual.parse? edit.item

variable {model : α}

theorem read_eq_applied_iff (text : String) :
    (bridge.read text).1 = .applied model ↔ Textual.parse? text = some model := by
  rw [outcome_read, SyncOutcome.ofRead]
  cases (Textual.parse? text : Option α) with
  | none => simp
  | some other => simp

theorem flush_eq_applied_iff : bridge.flush.1 = .applied model ↔ bridge.waitingModel? = some model := by
  rcases bridge.flush_cases with ⟨hinbound, hnext⟩ | ⟨_, text, hinbound, hnext⟩
  · rw [hnext, waitingModel?, hinbound]
    simp
  · rw [hnext, waitingModel?, hinbound, Option.bind_some]
    exact read_eq_applied_iff text

theorem flush_ne_pushed : bridge.flush.1 ≠ .pushed := by
  rcases bridge.flush_cases with ⟨-, hnext⟩ | ⟨_, text, -, hnext⟩
  · rw [hnext]
    nofun
  · rw [hnext]
    exact bridge.read_ne_pushed text

theorem waitingModel?_of_poll_eq_applied (hpoll : (bridge.poll now).1 = .applied model) :
    bridge.waitingModel? = some model := by
  rcases bridge.poll_cases now with ⟨_, _, -, -, hnext⟩ | ⟨_, text, hinbound, -, hnext⟩ | ⟨-, -, hnext⟩
  · rw [hnext] at hpoll
    cases hpoll
  · rw [hnext] at hpoll
    rw [waitingModel?, hinbound, Option.bind_some]
    exact (read_eq_applied_iff text).mp hpoll
  · rw [hnext] at hpoll
    cases hpoll

theorem waitingModel?_of_poll (hwaiting : (bridge.poll now).2.waitingModel? = some model) :
    bridge.waitingModel? = some model := by
  rcases bridge.poll_cases now with ⟨_, _, -, -, hnext⟩ | ⟨_, text, -, -, hnext⟩ | ⟨-, -, hnext⟩
  · rw [hnext] at hwaiting
    exact hwaiting
  · rw [hnext, waitingModel?, inbound_read] at hwaiting
    cases hwaiting
  · rw [hnext] at hwaiting
    exact hwaiting

theorem inbound_modelChanged (model : α) : (bridge.modelChanged model now).2.inbound = bridge.inbound := by
  rcases bridge.modelChanged_cases model now with ⟨-, hnext⟩ | ⟨-, -, hnext⟩ | ⟨-, -, hnext⟩
  · rw [hnext]
  · rw [hnext]
    rfl
  · rw [hnext]

end Bridge

end FormEditor
