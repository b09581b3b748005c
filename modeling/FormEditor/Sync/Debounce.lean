/-! The newest of several items is held back until no newer one has come for a while. Times and delays are in
milliseconds. -/

namespace FormEditor

abbrev Time := Nat

/-- An item that waits for its time. -/
structure Scheduled (α : Type) where
  deadline : Time
  item : α
  deriving DecidableEq

structure Debounce (α : Type) where
  delay : Nat
  pending : Option (Scheduled α)
  deriving DecidableEq

namespace Debounce

variable {α : Type}

def ofDelay (delay : Nat) : Debounce α :=
  ⟨delay, none⟩

def isPending (queue : Debounce α) : Bool :=
  queue.pending.isSome

def deadline? (queue : Debounce α) : Option Time :=
  queue.pending.map (·.deadline)

/-- Puts an item in place of the one that waits, and starts the delay anew. -/
def schedule (queue : Debounce α) (item : α) (now : Time) : Debounce α :=
  { queue with pending := some ⟨now + queue.delay, item⟩ }

def cancel (queue : Debounce α) : Debounce α :=
  { queue with pending := none }

/-- Takes the item that waits without regard to its time. -/
def take (queue : Debounce α) : Option α × Debounce α :=
  (queue.pending.map (·.item), queue.cancel)

/-- Takes the item that waits if its time has come. -/
def due (queue : Debounce α) (now : Time) : Option α × Debounce α :=
  match queue.pending with
  | some ⟨deadline, item⟩ => if deadline ≤ now then (some item, queue.cancel) else (none, queue)
  | none => (none, queue)

end Debounce

end FormEditor
