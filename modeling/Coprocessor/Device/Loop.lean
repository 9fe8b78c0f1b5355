import Coprocessor.Device

/-!
# Loops — handling many transactions

Three loops take transactions from the bus of a device one step at a time.

  • `drain` handles everything that waits on a queue bus, whatever the budget.
  • `runUntilIdle` stops as well when the budget is spent.
  • `run?` keeps polling, empty polls included, until a stop flag is seen up or the
    budget is spent. The flag is looked at once before every poll, and what it
    shows may depend on how often it was looked at and on the bus. The loop may
    go on for ever, so it is given a number of looks; `none` means that it is
    still running after them.

The first two end because a step on a queue bus takes a transaction from the
queue: `pending_step`.
-/

namespace Coprocessor.Device

/-- An entry leaves the bus alone. -/
@[simp] theorem bus_note {β : Type} (d : Device β) (e : Entry) : (d.note e).bus = d.bus := rfl

/-- Counting leaves the bus alone. -/
@[simp] theorem bus_countOutcome {β : Type} (d : Device β) (t : Transaction) (o : Outcome) :
    (d.countOutcome t o).bus = d.bus := by
  cases o <;> rfl

/-- Resolving a transaction leaves the queue alone. -/
@[simp] theorem pending_resolve (t : Transaction) (r : Registers) (q : Queue) :
    (t.resolve r q).2.2.pending = q.pending := by
  unfold Transaction.resolve
  split
  · rfl
  · rfl
  · dsimp only
    split <;> rfl
  · rfl

/-- A step takes the first pending transaction, if there is one. -/
theorem pending_step (d : Device Queue) :
    d.step.2.bus.pending = d.bus.pending.tail ∧ (d.step.1.isSome ↔ d.bus.pending ≠ []) := by
  unfold step
  cases h : d.bus.pending with
  | nil => simp [Bus.poll, Queue.poll, h]
  | cons t rest =>
      simp only [Bus.poll, Queue.poll, h, Bus.setBusy]
      simp [Queue.setBusy]

/-- A step that handled a transaction leaves fewer of them. -/
theorem pending_step_lt {d d' : Device Queue} {o : Outcome} (h : d.step = (some o, d')) :
    d'.bus.pending.length < d.bus.pending.length := by
  obtain ⟨htail, hsome⟩ := d.pending_step
  rw [h] at htail hsome
  have hne : d.bus.pending ≠ [] := hsome.1 rfl
  have hpos : 0 < d.bus.pending.length := List.length_pos_iff.2 hne
  simp only at htail
  rw [htail, List.length_tail]
  omega

/-- Handles everything that waits and returns the outcomes in order. -/
def drain (d : Device Queue) : List Outcome × Device Queue :=
  match _h : d.step with
  | (none, d') => ([], d')
  | (some outcome, d') =>
      let (outcomes, last) := drain d'
      (outcome :: outcomes, last)
termination_by d.bus.pending.length
decreasing_by exact pending_step_lt _h

/-- Handles what waits until the budget is spent; `handled` were handled before. -/
def runUntilIdleFrom (handled : Nat) (d : Device Queue) : Nat × Device Queue :=
  if d.config.budgetSpent handled then (handled, d)
  else
    match _h : d.step with
    | (none, d') => (handled, d')
    | (some _, d') => runUntilIdleFrom (handled + 1) d'
termination_by d.bus.pending.length
decreasing_by exact pending_step_lt _h

/-- Handles what waits until the budget is spent and returns how many. -/
def runUntilIdle (d : Device Queue) : Nat × Device Queue := runUntilIdleFrom 0 d

/-! ## The poll loop -/

variable {β : Type} [Bus β]

/-- Polls for at most `looks` looks at the flag, after `seen` of them. -/
def pollFrom (stop : Nat → β → Bool) :
    (looks seen handled : Nat) → Device β → Option (Nat × Device β)
  | 0, _, _, _ => none
  | looks + 1, seen, handled, d =>
      if stop seen d.bus || d.config.budgetSpent handled then some (handled, d)
      else
        match d.step with
        | (some _, d) => pollFrom stop looks (seen + 1) (handled + 1) d
        | (none, d) => pollFrom stop looks (seen + 1) handled d

/-- Polls until the flag is seen up or the budget is spent, and returns how many
    transactions were handled. -/
def run? (stop : Nat → β → Bool) (looks : Nat) (d : Device β) : Option (Nat × Device β) :=
  match pollFrom stop looks 0 0 (d.note (.loopStarted d.config)) with
  | some (handled, d) => some (handled, d.note (.loopStopped handled))
  | none => none

end Coprocessor.Device
