import Coprocessor.Proofs.Bus.Memory
import Coprocessor.Proofs.Device.Action

/-!
# Draining — a transaction behind those that wait

Handling everything that waits and then one more transaction is the same as
putting that transaction behind the others first. So the last outcome of a
drain is the outcome of the transaction that was pushed last, on the registers
that all the others leave.

  • `drain_of_nil`, `drain_of_cons` — a drain along the queue.
  • `handle_push` — handling from the front does not see what is pushed behind.
  • `drain_push` — the transaction that was pushed is handled last.

The induction of `drain_push` goes along the queue, for every device.
-/

namespace Coprocessor.Device

variable {d : Device Queue} {t : Transaction} {rest : List Transaction}

/-- An empty queue is drained already. -/
theorem drain_of_nil (h : d.bus.pending = []) : d.drain = ([], d) := by
  rw [drain, step_of_nil h]

/-- A drain handles the first transaction and goes on with the others. -/
theorem drain_of_cons (h : d.bus.pending = t :: rest) :
    d.drain
      = (t.outcome d.registers :: (d.handle t rest).drain.1, (d.handle t rest).drain.2) := by
  rw [drain, step_of_cons h]

/-- A device that was drained has nothing more to handle. -/
theorem drain_drain (d : Device Queue) : d.drain.2.drain = ([], d.drain.2) :=
  drain_of_nil d.pending_drain

@[simp] theorem pending_push (d : Device Queue) (u : Transaction) :
    (d.push u).bus.pending = d.bus.pending ++ [u] := rfl

/-- Counting does not look at what waits. -/
theorem countOutcome_push (d : Device Queue) (t u : Transaction) (o : Outcome) :
    (d.push u).countOutcome t o = (d.countOutcome t o).push u := by
  cases o <;> rfl

/-- Handling at the front and pushing at the back do not meet. -/
theorem handledBus_push (q : Queue) (t u : Transaction) (rest : List Transaction) (o : Outcome) :
    handledBus (q.push u) t (rest ++ [u]) o = (handledBus q t rest o).push u := by
  cases o <;> rfl

/-- Handling the first transaction and pushing another one may change places. -/
theorem handle_push (d : Device Queue) (t u : Transaction) (rest : List Transaction) :
    (d.push u).handle t (rest ++ [u]) = (d.handle t rest).push u := by
  have hbus : handledBus (d.push u).bus t (rest ++ [u]) (t.outcome (d.push u).registers)
      = (handledBus d.bus t rest (t.outcome d.registers)).push u :=
    handledBus_push d.bus t u rest _
  rw [handle, hbus, handle, ← countOutcome_push]
  rfl

/-- A transaction behind those that wait is handled after all of them. -/
theorem drain_push (d : Device Queue) (u : Transaction) :
    (d.push u).drain
      = (d.drain.1 ++ [u.outcome d.drain.2.registers], d.drain.2.handle u []) := by
  induction h : d.bus.pending generalizing d with
  | nil =>
      have hone : (d.push u).bus.pending = [u] := by
        rw [pending_push, h]
        rfl
      have hnone : ((d.push u).handle u []).bus.pending = [] := pending_handle
      rw [drain_of_cons hone, drain_of_nil hnone, drain_of_nil h]
      rfl
  | cons t rest ih =>
      have hpush : (d.push u).bus.pending = t :: (rest ++ [u]) := by
        rw [pending_push, h]
        rfl
      rw [drain_of_cons hpush, handle_push, ih (d.handle t rest) pending_handle, drain_of_cons h]
      rfl

end Coprocessor.Device
