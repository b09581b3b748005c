import FormEditor.Pattern.Standard
import FormEditor.Proofs.Editor.Bridges

/-! Waiting until nothing is left to be done. The deadline of an editor is the first time at which one of its
four queues has a text that is due, so before it a poll does nothing at all. From it on a poll empties exactly
the queues whose time has come, and fills none. Since a bridge has texts in one direction only, two rounds of
waiting and polling are enough, whatever the clock reads after each wait. -/

namespace FormEditor

variable {now : Time}

namespace Debounce

variable {α : Type}

/-- The item that waits, if its time is yet to come. -/
def notYetDue (queue : Debounce α) (now : Time) : Option (Scheduled α) :=
  queue.pending.filter fun waiting => now < waiting.deadline

theorem notYetDue_of_early {queue : Debounce α} (hearly : ∀ waiting ∈ queue.pending, now < waiting.deadline) :
    queue.notYetDue now = queue.pending := by
  unfold notYetDue
  cases hpending : queue.pending with
  | none => rfl
  | some waiting => exact Option.filter_eq_some_iff.mpr ⟨rfl, decide_eq_true (hearly waiting hpending)⟩

theorem notYetDue_of_due {queue : Debounce α} {deadline : Time} {item : α}
    (hpending : queue.pending = some ⟨deadline, item⟩) (hdue : deadline ≤ now) : queue.notYetDue now = none := by
  rw [notYetDue, hpending, Option.filter_some, if_neg]
  exact fun hlater => absurd hdue (Nat.not_le.mpr (of_decide_eq_true hlater))

theorem notYetDue_of_none {queue : Debounce α} (hpending : queue.pending = none) : queue.notYetDue now = none := by
  rw [notYetDue, hpending, Option.filter_none]

end Debounce

namespace Bridge

variable {α : Type} {bridge : Bridge α}

theorem OneWay.waiting_le (honeWay : bridge.OneWay) : bridge.waiting ≤ 1 := by
  rcases honeWay with hnone | hnone
  · rw [waiting, Debounce.isPending, hnone]
    calc (none : Option (Scheduled String)).isSome.toNat + bridge.inbound.isPending.toNat
        = bridge.inbound.isPending.toNat := Nat.zero_add _
      _ ≤ 1 := Bool.toNat_le _
  · rw [waiting, Debounce.isPending, Debounce.isPending, hnone]
    exact Bool.toNat_le _

variable [Textual α]

/-- A poll empties the queues whose time has come. -/
theorem OneWay.pending_poll (honeWay : bridge.OneWay) (now : Time) :
    (bridge.poll now).2.outbound.pending = bridge.outbound.notYetDue now ∧
      (bridge.poll now).2.inbound.pending = bridge.inbound.notYetDue now := by
  rcases bridge.poll_cases now with
    ⟨_, _, hpush, hdue, hnext⟩ | ⟨_, text, hedit, hdue, hnext⟩ | ⟨houtbound, hinbound, hnext⟩
  · -- a poll that shows a text does not look at the typed one, but there is none
    have hnone : bridge.inbound.pending = none :=
      honeWay.resolve_left fun hnone => by cases hnone.symm.trans hpush
    rw [hnext]
    exact ⟨(Debounce.notYetDue_of_due hpush hdue).symm, hnone.trans (Debounce.notYetDue_of_none hnone).symm⟩
  · have hnone : bridge.outbound.pending = none :=
      honeWay.resolve_right fun hnone => by cases hnone.symm.trans hedit
    rw [hnext, outbound_read, inbound_read, Debounce.notYetDue_of_due hedit hdue, Debounce.notYetDue_of_none hnone]
    exact ⟨hnone, rfl⟩
  · rw [hnext]
    exact ⟨(Debounce.notYetDue_of_early houtbound).symm, (Debounce.notYetDue_of_early hinbound).symm⟩

end Bridge

/-- The queues of an editor. -/
inductive TextQueue where
  | formToShow
  | formToRead
  | recordToShow
  | recordToRead

theorem TextQueue.forall_iff {holds : TextQueue → Prop} :
    (∀ queue, holds queue) ↔
      (holds .formToShow ∧ holds .formToRead) ∧ holds .recordToShow ∧ holds .recordToRead := by
  constructor
  · exact fun hall => ⟨⟨hall .formToShow, hall .formToRead⟩, hall .recordToShow, hall .recordToRead⟩
  · rintro ⟨⟨hformToShow, hformToRead⟩, hrecordToShow, hrecordToRead⟩ queue
    cases queue <;> assumption

namespace Editor

variable {editor next : Editor} {actions : List Action}

def textQueue (editor : Editor) : TextQueue → Debounce String
  | .formToShow => editor.formBridge.outbound
  | .formToRead => editor.formBridge.inbound
  | .recordToShow => editor.recordBridge.outbound
  | .recordToRead => editor.recordBridge.inbound

/-- **The deadline is the first of the four queues**: a time comes before it if nothing that waits is due. -/
theorem forall_lt_deadline?_iff (editor : Editor) :
    (∀ time ∈ editor.deadline?, now < time) ↔
      ∀ queue, ∀ waiting ∈ (editor.textQueue queue).pending, now < waiting.deadline := by
  have hbridges : (∀ time ∈ editor.deadline?, now < time) ↔
      (∀ time ∈ editor.formBridge.deadline?, now < time) ∧
        ∀ time ∈ editor.recordBridge.deadline?, now < time :=
    forall_lt_earlier?_iff editor.formBridge.deadline? editor.recordBridge.deadline?
  rw [hbridges, Bridge.forall_lt_deadline?_iff, Bridge.forall_lt_deadline?_iff, TextQueue.forall_iff]
  rfl

theorem pending_of_deadline?_eq_none (hnone : editor.deadline? = none) :
    ∀ queue, (editor.textQueue queue).pending = none := by
  obtain ⟨hform, hrecord⟩ := deadline?_eq_none_iff.mp hnone
  rw [TextQueue.forall_iff]
  exact ⟨(Bridge.deadline?_eq_none_iff _).mp hform, (Bridge.deadline?_eq_none_iff _).mp hrecord⟩

/-! ### A poll -/

theorem pollRecord_of_early (hearly : ∀ time ∈ editor.recordBridge.deadline?, now < time) :
    editor.pollRecord now = ([], editor) := by
  rw [pollRecord, Bridge.poll_of_early hearly]
  rfl

theorem poll_of_early (hearly : ∀ time ∈ editor.deadline?, now < time) : editor.poll now = ([], editor) := by
  obtain ⟨hform, hrecord⟩ :=
    (forall_lt_earlier?_iff editor.formBridge.deadline? editor.recordBridge.deadline?).mp hearly
  have hpollForm : editor.pollForm now = ([], editor) := by
    rw [pollForm, Bridge.poll_of_early hform]
  rw [poll, hpollForm]
  show ([] ++ (editor.pollRecord now).1, (editor.pollRecord now).2) = ([], editor)
  rw [pollRecord_of_early hrecord]
  rfl

theorem OneWay.pending_poll (honeWay : editor.OneWay) (now : Time) :
    ∀ queue, ((editor.poll now).2.textQueue queue).pending = (editor.textQueue queue).notYetDue now := by
  have hform := honeWay.form.pending_poll now
  have hrecord := honeWay.record.pending_poll now
  rw [← formBridge_poll] at hform
  rw [← recordBridge_poll] at hrecord
  rw [TextQueue.forall_iff]
  exact ⟨hform, hrecord⟩

/-- At its deadline an editor has a text that is due. -/
theorem exists_due {deadline : Time} (hdeadline : deadline ∈ editor.deadline?) (hdue : deadline ≤ now) :
    ∃ queue, ∃ waiting ∈ (editor.textQueue queue).pending, waiting.deadline ≤ now := by
  by_contra hnothing
  have hearly : ∀ time ∈ editor.deadline?, now < time := by
    refine editor.forall_lt_deadline?_iff.mpr fun queue waiting hwaiting => ?_
    exact Nat.not_le.mp fun hpast => hnothing ⟨queue, waiting, hwaiting, hpast⟩
  exact absurd hdue (Nat.not_le.mpr (hearly deadline hdeadline))

/-! ### Round after round -/

theorem OneWay.waiting_le (honeWay : editor.OneWay) : editor.waiting ≤ 2 :=
  Nat.add_le_add honeWay.form.waiting_le honeWay.record.waiting_le

/-- Rounds of an editor that waits for its deadline and then polls, one for each time that the clock read after
a wait. It may read a later time than was waited for. -/
inductive Rounds : Editor → List Time → List Action → Editor → Prop where
  | none (editor : Editor) : Rounds editor [] [] editor
  | poll {editor next : Editor} {deadline reading : Time} {readings : List Time} {actions : List Action}
      (hdeadline : editor.deadline? = some deadline) (hwoken : deadline ≤ reading)
      (hrest : Rounds (editor.poll reading).2 readings actions next) :
      Rounds editor (reading :: readings) ((editor.poll reading).1 ++ actions) next

/-- Every round takes a text. -/
theorem Rounds.length_add_waiting_le {readings : List Time} (hrounds : Rounds editor readings actions next) :
    readings.length + next.waiting ≤ editor.waiting := by
  induction hrounds with
  | none editor => exact Nat.le_of_eq (Nat.zero_add _)
  | @poll editor next deadline reading readings actions hdeadline hwoken hrest ih =>
      calc (reading :: readings).length + next.waiting
          = readings.length + next.waiting + 1 := by
            rw [List.length_cons, Nat.add_right_comm]
        _ ≤ (editor.poll reading).2.waiting + 1 := Nat.succ_le_succ ih
        _ ≤ editor.waiting := waiting_poll_lt hdeadline hwoken

/-- Settling goes through such rounds. -/
theorem exists_rounds_settleWithin (rounds : Nat) : ∀ (editor : Editor) (now : Time), ∃ readings,
    Rounds editor readings (settleWithin rounds editor now).1 (settleWithin rounds editor now).2.2 := by
  induction rounds with
  | zero => exact fun editor _ => ⟨[], .none editor⟩
  | succ rounds ih =>
      intro editor now
      unfold settleWithin
      split
      · exact ⟨[], .none editor⟩
      · rename_i deadline hdeadline
        obtain ⟨readings, hrest⟩ := ih (editor.poll (max now deadline)).2 (max now deadline)
        exact ⟨max now deadline :: readings, .poll hdeadline (Nat.le_max_right now deadline) hrest⟩

/-- **Settling ends after two rounds and leaves nothing that waits.** In any state of any run the two bridges
have at most one text each. A poll before the deadline reports nothing and leaves the editor as it is. A poll at
the deadline or later empties a queue, and all in all exactly those whose time has come, so none gets a
text. However late the clock reads after each wait, there are at most two rounds; after two there is no further
deadline, and without a deadline nothing waits in any queue. Settling is such a sequence of rounds, at the end
of which there is no deadline. -/
theorem settling_drains [PatternEngine] (form : Form) (config : EditorConfig) (ids : IdSupply) (now : Time)
    (steps : List (Operation × Time)) :
    let editor := (start form config ids now).run steps
    editor.OneWay ∧
    (∀ time, (∀ deadline ∈ editor.deadline?, time < deadline) → editor.poll time = ([], editor)) ∧
    (∀ time, ∀ deadline ∈ editor.deadline?, deadline ≤ time →
      (∃ queue, (editor.textQueue queue).pending ≠ none ∧
        ((editor.poll time).2.textQueue queue).pending = none) ∧
      ∀ queue, ((editor.poll time).2.textQueue queue).pending = (editor.textQueue queue).notYetDue time) ∧
    (∀ readings actions next, Rounds editor readings actions next →
      readings.length ≤ 2 ∧ (readings.length = 2 → next.deadline? = none) ∧
      (next.deadline? = none → ∀ queue, (next.textQueue queue).pending = none)) ∧
    ∀ later, (∃ readings, Rounds editor readings (editor.settle later).1 (editor.settle later).2.2) ∧
      (editor.settle later).2.2.deadline? = none := by
  intro editor
  have honeWay : editor.OneWay := oneWay_run form config ids now steps
  refine ⟨honeWay, fun time hearly => poll_of_early hearly, ?_, ?_, ?_⟩
  · intro time deadline hdeadline hdue
    refine ⟨?_, honeWay.pending_poll time⟩
    obtain ⟨queue, waiting, hwaiting, hpast⟩ := exists_due hdeadline hdue
    refine ⟨queue, ?_, ?_⟩
    · rw [Option.mem_def.mp hwaiting]
      exact Option.some_ne_none waiting
    · rw [honeWay.pending_poll time queue]
      exact Debounce.notYetDue_of_due hwaiting hpast
  · intro readings actions next hrounds
    have htaken : readings.length + next.waiting ≤ 2 := 
      Nat.le_trans hrounds.length_add_waiting_le honeWay.waiting_le
    refine ⟨by omega, ?_, pending_of_deadline?_eq_none⟩
    intro htwo
    exact deadline?_of_waiting_eq_zero (by omega)
  · intro later
    exact ⟨exists_rounds_settleWithin 4 editor later, editor.deadline?_settle later⟩

/-- A form and a record are typed one after the other. They are read in two rounds, also when the clock is
late the first time. -/
theorem two_texts_drained :
    let config : EditorConfig := { EditorConfig.standard with modelDebounce := 100 }
    let steps : List (Operation × Time) := [(.formTextChanged "\x7b", 0), (.recordTextChanged "\x7b", 100)]
    let editor := (start (.blank "u") config ⟨0⟩ 0).run steps
    ∃ actions next, Rounds editor [510, 600] actions next ∧ next.deadline? = none := by
  intro config steps
  have hform : ((start (.blank "u") config ⟨0⟩ 0).run steps).deadline? = some 500 := by decide +kernel
  have hrecord : (((start (.blank "u") config ⟨0⟩ 0).run steps).poll 510).2.deadline? = some 600 := by
    decide +kernel
  have hrounds := Rounds.poll hform (by decide : 500 ≤ 510) (.poll hrecord (by decide : 600 ≤ 600) (.none _))
  have hends := (settling_drains (.blank "u") config ⟨0⟩ 0 steps).2.2.2.1 _ _ _ hrounds
  exact ⟨_, _, hrounds, hends.2.1 rfl⟩

end Editor

end FormEditor
