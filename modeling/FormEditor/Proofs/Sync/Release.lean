import Mathlib.Data.List.Basic
import Mathlib.Data.List.Induction
import FormEditor.Proofs.Sync.Call

/-! When a queue gives out what it holds back. What waits in a queue is the item scheduled last, until it is
taken, cancelled, or asked for after its delay. So what is given out as due is always the newest item, comes
after a quiet time, and comes once. Of a burst, in which each item follows the one before it within the delay,
only the last item can be given out: a call that would give out an earlier one comes no sooner than the delay
allows, and by then the next item has taken its place. -/

namespace FormEditor.Debounce

variable {α : Type}

/-- One use of a queue. -/
inductive Call (α : Type) where
  | schedule (item : α) (now : Time)
  | due (now : Time)
  | take
  | cancel

namespace Call

/-- The item that a call schedules, with its time. -/
def scheduled? : Call α → Option (α × Time)
  | .schedule item now => some (item, now)
  | _ => none

/-- The time of a call. An item is taken or cancelled without regard to the time. -/
def time? : Call α → Option Time
  | .schedule _ now | .due now => some now
  | .take | .cancel => none

end Call

/-- No call is made at an earlier time than one before it. -/
def InOrder (calls : List (Call α)) : Prop :=
  (calls.filterMap Call.time?).Pairwise (· ≤ ·)

instance (calls : List (Call α)) : Decidable (InOrder calls) :=
  inferInstanceAs (Decidable (List.Pairwise _ _))

/-- What a call gives out, and the queue after it. -/
def perform (queue : Debounce α) : Call α → Option α × Debounce α
  | .schedule item now => (none, queue.schedule item now)
  | .due now => queue.due now
  | .take => queue.take
  | .cancel => (none, queue.cancel)

/-- The queue after a run. -/
def run (queue : Debounce α) (calls : List (Call α)) : Debounce α :=
  calls.foldl (fun queue call => (queue.perform call).2) queue

/-- What a call gives out as due. -/
def release? (queue : Debounce α) : Call α → Option α
  | .due now => (queue.due now).1
  | _ => none

/-- What is given out as due in a run, in its order. -/
def released (queue : Debounce α) : List (Call α) → List α
  | [] => []
  | call :: calls => (queue.release? call).toList ++ (queue.perform call).2.released calls

/-- A run leaves an item waiting that was scheduled at a time: it is the one scheduled last, and since then the
queue was only asked for what is due, each time before the delay was over. -/
def LeavesWaiting (delay : Nat) (calls : List (Call α)) (item : α) (time : Time) : Prop :=
  ∃ (before : List (Call α)) (asked : List Time), calls = before ++ .schedule item time :: asked.map .due ∧
    ∀ now ∈ asked, now < time + delay

/-- The last item of every burst. A burst goes on as long as each item comes less than the delay after the
one before it. -/
def endsOfBursts (delay : Nat) : List (α × Time) → List α
  | [] => []
  | [last] => [last.1]
  | first :: next :: scheduled =>
      if next.2 < first.2 + delay then endsOfBursts delay (next :: scheduled)
      else first.1 :: endsOfBursts delay (next :: scheduled)

/-! ### What a call does -/

theorem due_eq_some_iff (queue : Debounce α) (now : Time) (item : α) :
    (queue.due now).1 = some item ↔
      ∃ waiting, queue.pending = some waiting ∧ waiting.item = item ∧ waiting.deadline ≤ now := by
  rcases queue.due_cases now with ⟨waiting, hpending, hdue, hnext⟩ | ⟨hearly, hnext⟩
  · rw [hnext, hpending]
    simp [hdue]
  · rw [hnext]
    constructor
    · nofun
    · rintro ⟨waiting, hpending, -, hdue⟩
      exact absurd hdue (Nat.not_le.mpr (hearly waiting hpending))

/-- The item that waits after a call was scheduled by it, or was asked for too early. -/
theorem pending_perform_eq_some_iff (queue : Debounce α) (call : Call α) (waiting : Scheduled α) :
    (queue.perform call).2.pending = some waiting ↔
      (∃ time, call = .schedule waiting.item time ∧ waiting.deadline = time + queue.delay) ∨
        ∃ now, call = .due now ∧ now < waiting.deadline ∧ queue.pending = some waiting := by
  cases call with
  | schedule item now =>
      obtain ⟨deadline, waitingItem⟩ := waiting
      simp only [perform, pending_schedule, Option.some.injEq, Scheduled.mk.injEq, Call.schedule.injEq]
      constructor
      · rintro ⟨rfl, rfl⟩
        exact Or.inl ⟨now, ⟨rfl, rfl⟩, rfl⟩
      · rintro (⟨_, ⟨rfl, rfl⟩, rfl⟩ | ⟨_, hcall, -⟩)
        · exact ⟨rfl, rfl⟩
        · cases hcall
  | due now =>
      simp only [perform, Call.due.injEq, reduceCtorEq, false_and, exists_false, false_or, exists_eq_left']
      rcases queue.due_cases now with ⟨other, hpending, hdue, hnext⟩ | ⟨hearly, hnext⟩
      · rw [hnext, hpending, pending_cancel]
        constructor
        · nofun
        · rintro ⟨hearly, ⟨rfl⟩⟩
          exact absurd hdue (Nat.not_le.mpr hearly)
      · rw [hnext]
        exact ⟨fun hpending => ⟨hearly waiting hpending, hpending⟩, And.right⟩
  | take | cancel => simp [perform, take]

theorem delay_perform (queue : Debounce α) (call : Call α) : (queue.perform call).2.delay = queue.delay := by
  cases call with
  | due now =>
      change (queue.due now).2.delay = queue.delay
      rcases queue.due_cases now with ⟨_, -, -, hnext⟩ | ⟨-, hnext⟩
      · rw [hnext]
        rfl
      · rw [hnext]
  | schedule | take | cancel => rfl

theorem run_snoc (queue : Debounce α) (calls : List (Call α)) (call : Call α) :
    queue.run (calls ++ [call]) = ((queue.run calls).perform call).2 :=
  List.foldl_concat ..

theorem delay_run (queue : Debounce α) (calls : List (Call α)) : (queue.run calls).delay = queue.delay := by
  induction calls using List.reverseRecOn with
  | nil => rfl
  | append_singleton calls call ih => rw [run_snoc, delay_perform, ih]

/-! ### What a run leaves waiting -/

theorem leavesWaiting_snoc {delay : Nat} {calls : List (Call α)} {call : Call α} {item : α} {time : Time} :
    LeavesWaiting delay (calls ++ [call]) item time ↔
      call = .schedule item time ∨
        ∃ now, call = .due now ∧ now < time + delay ∧ LeavesWaiting delay calls item time := by
  have hsplit : ∀ (before : List (Call α)) (asked : List Time) (now : Time),
      before ++ .schedule item time :: (asked ++ [now]).map .due =
      (before ++ .schedule item time :: asked.map .due) ++ [.due now] := by simp
  constructor
  · rintro ⟨before, asked, hcalls, hearly⟩
    -- The last call scheduled the item if nothing was asked since, and is the last that asked too early else.
    rcases asked.eq_nil_or_concat with rfl | ⟨asked, now, rfl⟩
    · obtain ⟨-, hlast⟩ := List.append_inj' hcalls rfl
      exact Or.inl (List.head_eq_of_cons_eq hlast)
    · rw [List.concat_eq_append] at hcalls hearly
      rw [hsplit] at hcalls
      obtain ⟨rfl, hlast⟩ := List.append_inj' hcalls rfl
      have hnow : now < time + delay := hearly now (by simp)
      refine Or.inr ⟨now, List.head_eq_of_cons_eq hlast, hnow, before, asked, rfl, ?_⟩
      exact fun earlier hearlier => hearly earlier (List.mem_append_left _ hearlier)
  · rintro (rfl | ⟨now, rfl, hnow, before, asked, rfl, hearly⟩)
    · exact ⟨calls, [], rfl, nofun⟩
    · refine ⟨before, asked ++ [now], (hsplit before asked now).symm, ?_⟩
      intro earlier hearlier
      rcases List.mem_append.mp hearlier with hold | hnew
      · exact hearly earlier hold
      · rw [List.mem_singleton.mp hnew]
        exact hnow

/-- A queue holds what the calls so far leave waiting, with the end of its delay. -/
theorem pending_run_eq_some_iff (delay : Nat) (calls : List (Call α)) (waiting : Scheduled α) :
    ((ofDelay delay).run calls).pending = some waiting ↔
      ∃ time, LeavesWaiting delay calls waiting.item time ∧ waiting.deadline = time + delay := by
  induction calls using List.reverseRecOn with
  | nil =>
      constructor
      · nofun
      · rintro ⟨_, ⟨before, asked, hcalls, -⟩, -⟩
        simp at hcalls
  | append_singleton calls call ih =>
      have hdelay : ((ofDelay delay).run calls).delay = delay := delay_run _ calls
      rw [run_snoc, pending_perform_eq_some_iff, hdelay, ih]
      constructor
      · rintro (⟨time, rfl, hdeadline⟩ | ⟨now, rfl, hearly, time, hleaves, hdeadline⟩)
        · exact ⟨time, leavesWaiting_snoc.mpr (Or.inl rfl), hdeadline⟩
        · rw [hdeadline] at hearly
          exact ⟨time, leavesWaiting_snoc.mpr (Or.inr ⟨now, rfl, hearly, hleaves⟩), hdeadline⟩
      · rintro ⟨time, hleaves, hdeadline⟩
        rcases leavesWaiting_snoc.mp hleaves with rfl | ⟨now, rfl, hearly, hleaves⟩
        · exact Or.inl ⟨time, rfl, hdeadline⟩
        · rw [← hdeadline] at hearly
          exact Or.inr ⟨now, rfl, hearly, time, hleaves, hdeadline⟩

section Run

variable {delay : Nat} (calls : List (Call α))

theorem due_run_eq_some_iff (now : Time) (item : α) :
    (((ofDelay delay).run calls).due now).1 = some item ↔
      ∃ time, LeavesWaiting delay calls item time ∧ time + delay ≤ now := by
  rw [due_eq_some_iff]
  constructor
  · rintro ⟨waiting, hpending, rfl, hdue⟩
    obtain ⟨time, hleaves, hdeadline⟩ := (pending_run_eq_some_iff delay calls waiting).mp hpending
    rw [hdeadline] at hdue
    exact ⟨time, hleaves, hdue⟩
  · rintro ⟨time, hleaves, hdue⟩
    have hpending := (pending_run_eq_some_iff delay calls ⟨time + delay, item⟩).mpr ⟨time, hleaves, rfl⟩
    exact ⟨_, hpending, rfl, hdue⟩

theorem due_run_of_early {now : Time}
    (hearly : ∀ item time, LeavesWaiting delay calls item time → now < time + delay) :
    ((ofDelay delay).run calls).due now = (none, (ofDelay delay).run calls) := by
  rcases ((ofDelay delay).run calls).due_cases now with ⟨waiting, hpending, hdue, -⟩ | ⟨-, hnext⟩
  · obtain ⟨time, hleaves, hdeadline⟩ := (pending_run_eq_some_iff delay calls waiting).mp hpending
    rw [hdeadline] at hdue
    exact absurd hdue (Nat.not_le.mpr (hearly _ time hleaves))
  · exact hnext

theorem deadline?_run_eq_some_iff (deadline : Time) :
    ((ofDelay delay).run calls).deadline? = some deadline ↔
      ∃ item time, LeavesWaiting delay calls item time ∧ deadline = time + delay := by
  rw [deadline?, Option.map_eq_some_iff]
  constructor
  · rintro ⟨waiting, hpending, rfl⟩
    exact ⟨waiting.item, (pending_run_eq_some_iff delay calls waiting).mp hpending⟩
  · rintro ⟨item, hleaves⟩
    exact ⟨⟨deadline, item⟩, (pending_run_eq_some_iff delay calls _).mpr hleaves, rfl⟩

theorem isPending_run_iff :
    ((ofDelay delay).run calls).isPending ↔ ∃ item time, LeavesWaiting delay calls item time := by
  rw [isPending, Option.isSome_iff_exists]
  constructor
  · rintro ⟨waiting, hpending⟩
    obtain ⟨time, hleaves, -⟩ := (pending_run_eq_some_iff delay calls waiting).mp hpending
    exact ⟨waiting.item, time, hleaves⟩
  · rintro ⟨item, time, hleaves⟩
    exact ⟨⟨time + delay, item⟩, (pending_run_eq_some_iff delay calls _).mpr ⟨time, hleaves, rfl⟩⟩

end Run

/-! ### Queues in which nothing waits -/

theorem perform_of_none {queue : Debounce α} (hnone : queue.pending = none) {call : Call α}
    (hunscheduled : call.scheduled? = none) : queue.perform call = (none, queue) := by
  cases call with
  | schedule => cases hunscheduled
  | due now => exact due_of_none hnone now
  | take | cancel => simp [perform, take, hnone, cancel_of_none hnone]

theorem run_of_none {queue : Debounce α} (hnone : queue.pending = none) {calls : List (Call α)}
    (hunscheduled : ∀ call ∈ calls, call.scheduled? = none) : queue.run calls = queue := by
  induction calls with
  | nil => rfl
  | cons call calls ih =>
      obtain ⟨hcall, hcalls⟩ := List.forall_mem_cons.mp hunscheduled
      rw [run, List.foldl_cons, perform_of_none hnone hcall]
      exact ih hcalls

/-- An item that was given out does not come back: until something is scheduled, nothing more is given out. -/
theorem nothing_after_release {queue : Debounce α} {now : Time} (hreleased : (queue.due now).1 ≠ none)
    {rest : List (Call α)} (hunscheduled : ∀ call ∈ rest, call.scheduled? = none) (call : Call α) :
    (((queue.due now).2.run rest).perform call).1 = none := by
  rcases queue.due_cases now with ⟨_, -, -, hnext⟩ | ⟨-, hnext⟩
  · rw [hnext, run_of_none queue.pending_cancel hunscheduled]
    cases hcall : call.scheduled? with
    | none => rw [perform_of_none queue.pending_cancel hcall]
    | some scheduled =>
        cases call with
        | schedule => rfl
        | due | take | cancel => cases hcall
  · rw [hnext] at hreleased
    exact absurd rfl hreleased

/-! ### Bursts -/

section Bursts

variable {delay : Nat} {item : α} {time : Time} {scheduled : List (α × Time)}

/-- One more item at the front does not change how the bursts after it end. -/
theorem endsOfBursts_sublist_cons (delay : Nat) (first : α × Time) (scheduled : List (α × Time)) :
    (endsOfBursts delay scheduled).Sublist (endsOfBursts delay (first :: scheduled)) := by
  cases scheduled with
  | nil => exact List.nil_sublist _
  | cons next scheduled =>
      by_cases hsoon : next.2 < first.2 + delay
      · rw [endsOfBursts, if_pos hsoon]
      · rw [endsOfBursts, if_neg hsoon]
        exact List.sublist_cons_self _ _

/-- An item that nothing follows within the delay ends its burst. -/
theorem endsOfBursts_cons_of_late (hlate : ∀ next ∈ scheduled, time + delay ≤ next.2) :
    endsOfBursts delay ((item, time) :: scheduled) = item :: endsOfBursts delay scheduled := by
  cases scheduled with
  | nil => rfl
  | cons next scheduled =>
      have hnext : ¬next.2 < time + delay := Nat.not_lt.mpr (hlate next List.mem_cons_self)
      rw [endsOfBursts, if_neg hnext]

theorem endsOfBursts_sublist_append (delay : Nat) (first : Option (α × Time)) (scheduled : List (α × Time)) :
    (endsOfBursts delay scheduled).Sublist (endsOfBursts delay (first.toList ++ scheduled)) := by
  cases first with
  | none => exact List.Sublist.refl _
  | some first => exact endsOfBursts_sublist_cons delay first scheduled

end Bursts

theorem InOrder.tail {call : Call α} {calls : List (Call α)} (horder : InOrder (call :: calls)) :
    InOrder calls := by
  unfold InOrder at horder ⊢
  cases htime : call.time? with
  | none => rwa [List.filterMap_cons_none htime] at horder
  | some time =>
      rw [List.filterMap_cons_some htime] at horder
      exact (List.pairwise_cons.mp horder).2

/-- What is scheduled after a call for what is due comes no earlier. -/
theorem InOrder.le_of_scheduled {now : Time} {calls : List (Call α)} (horder : InOrder (.due now :: calls)) :
    ∀ next ∈ calls.filterMap Call.scheduled?, now ≤ next.2 := by
  intro next hnext
  obtain ⟨call, hcall, hscheduled⟩ := List.mem_filterMap.mp hnext
  have hlater : ∀ time ∈ calls.filterMap Call.time?, now ≤ time := (List.pairwise_cons.mp horder).1
  cases call with
  | schedule item time =>
      cases hscheduled
      exact hlater time (List.mem_filterMap.mpr ⟨_, hcall, rfl⟩)
  | due | take | cancel => cases hscheduled

/-- What a queue gives out as due ends a burst. What waits in the queue counts as the item before the
calls, with the time at which it was scheduled. -/
theorem released_sublist {calls : List (Call α)} (horder : InOrder calls) (queue : Debounce α)
    (first : Option (α × Time))
    (hpending : queue.pending = first.map fun scheduled => ⟨scheduled.2 + queue.delay, scheduled.1⟩) :
    (queue.released calls).Sublist
      (endsOfBursts queue.delay (first.toList ++ calls.filterMap Call.scheduled?)) := by
  induction calls generalizing queue first with
  | nil => exact List.nil_sublist _
  | cons call calls ih =>
      have hdrop := endsOfBursts_sublist_append queue.delay first
      cases call with
      | schedule item now =>
          have hrest := ih horder.tail (queue.schedule item now) (some (item, now)) rfl
          exact hrest.trans (hdrop _)
      | take | cancel =>
          have hrest := ih horder.tail queue.cancel none rfl
          exact hrest.trans (hdrop _)
      | due now =>
          change ((queue.due now).1.toList ++ (queue.due now).2.released calls).Sublist
            (endsOfBursts queue.delay (first.toList ++ calls.filterMap Call.scheduled?))
          rcases queue.due_cases now with ⟨waiting, hwaiting, hdue, hnext⟩ | ⟨-, hnext⟩
          · obtain ⟨⟨item, time⟩, rfl, rfl⟩ := Option.map_eq_some_iff.mp (hpending.symm.trans hwaiting)
            -- Whatever is scheduled from here on comes after the delay, so the item given out ended its burst.
            have hlate : ∀ next ∈ calls.filterMap Call.scheduled?, time + queue.delay ≤ next.2 :=
              fun next hmem => Nat.le_trans hdue (horder.le_of_scheduled next hmem)
            have hrest := ih horder.tail queue.cancel none rfl
            rw [hnext]
            change (item :: queue.cancel.released calls).Sublist
              (endsOfBursts queue.delay ((item, time) :: calls.filterMap Call.scheduled?))
            rw [endsOfBursts_cons_of_late hlate]
            exact hrest.cons_cons item
          · rw [hnext]
            exact ih horder.tail queue first hpending

/-- **A queue gives out the newest item, once, after a quiet time.** After any run, a call for what is due gives
out an item exactly if it is the one scheduled last, nothing but calls that came too early followed it, and its
delay is over. Once it was given out nothing more comes, however the queue is asked, until something is scheduled.
A call for what is due before the end of the delay changes nothing. The deadline is the end of the delay of the
item that waits, and there is none while nothing waits. In a run whose calls come in the order of their times,
what is given out as due are the last items of bursts, each at most once and in their order. -/
theorem newest_released_once (delay : Nat) (calls : List (Call α)) :
    let queue := (ofDelay delay).run calls
    (∀ now item, (queue.due now).1 = some item ↔
      ∃ time, LeavesWaiting delay calls item time ∧ time + delay ≤ now) ∧
    (∀ now rest call, (queue.due now).1 ≠ none → (∀ other ∈ rest, other.scheduled? = none) →
      (((queue.due now).2.run rest).perform call).1 = none) ∧
    (∀ now, (∀ item time, LeavesWaiting delay calls item time → now < time + delay) →
      queue.due now = (none, queue)) ∧
    (∀ deadline, queue.deadline? = some deadline ↔
      ∃ item time, LeavesWaiting delay calls item time ∧ deadline = time + delay) ∧
    (queue.isPending ↔ ∃ item time, LeavesWaiting delay calls item time) ∧
    (InOrder calls →
      ((ofDelay delay).released calls).Sublist (endsOfBursts delay (calls.filterMap Call.scheduled?))) := by
  intro queue
  refine ⟨due_run_eq_some_iff calls, ?_, fun _ => due_run_of_early calls, deadline?_run_eq_some_iff calls,
    isPending_run_iff calls, fun horder => released_sublist horder (ofDelay delay) none rfl⟩
  intro now rest call hreleased hunscheduled
  exact nothing_after_release hreleased hunscheduled call

/-- Of three items, of which the second follows the first within the delay, the second is given out while
the third waits for its time; after that one too was given out there is nothing left to take. -/
theorem burst_released_once :
    let calls : List (Call Nat) :=
      [.schedule 1 0, .due 5, .schedule 2 8, .due 12, .due 18, .due 30, .schedule 3 40, .due 45]
    let queue := (ofDelay 10).run calls
    InOrder calls ∧ ((ofDelay 10).released calls).Sublist [2, 3] ∧
      queue.due 49 = (none, queue) ∧ queue.deadline? = some 50 ∧ (queue.due 50).1 = some 3 ∧
      (((queue.due 50).2.run [.due 60]).perform .take).1 = none := by
  intro calls queue
  obtain ⟨hdue, honce, hearly, hdeadline, -, hbursts⟩ := newest_released_once 10 calls
  have horder : InOrder calls := by decide
  have hends : endsOfBursts 10 (calls.filterMap Call.scheduled?) = [2, 3] := by decide
  have hleaves : LeavesWaiting 10 calls 3 40 :=
    ⟨[.schedule 1 0, .due 5, .schedule 2 8, .due 12, .due 18, .due 30], [45], rfl, by decide⟩
  have hfifty : queue.deadline? = some 50 := (hdeadline 50).mpr ⟨3, 40, hleaves, rfl⟩
  have hreleased : (queue.due 50).1 = some 3 := (hdue 50 3).mpr ⟨40, hleaves, Nat.le_refl 50⟩
  have hbefore : queue.due 49 = (none, queue) := by
    apply hearly
    intro item time hother
    have hsame : queue.deadline? = some (time + 10) := (hdeadline _).mpr ⟨item, time, hother, rfl⟩
    rw [hfifty] at hsame
    rw [← Option.some.inj hsame]
    decide
  have hnothing : (((queue.due 50).2.run [.due 60]).perform .take).1 = none := by
    apply honce
    · rw [hreleased]
      nofun
    · decide
  exact ⟨horder, hends ▸ hbursts horder, hbefore, hfifty, hreleased, hnothing⟩

end FormEditor.Debounce
