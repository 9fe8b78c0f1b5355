import Coprocessor.Device.Loop
import Coprocessor.Proofs.Bus.Shape

/-!
# Steps — every loop is a number of steps

A step on a queue either finds nothing and changes nothing, or handles the
first waiting transaction. What it does then is said once, by `handle`, and the
loops are compared with `steps n`, the device after `n` steps.

  • `step_of_cons`, `step_of_nil` — the two cases of a step.
  • `drain_eq_steps` — draining is one step for each waiting transaction.
  • `runUntilIdle_eq_steps` — so is a run until idle, up to its budget.
  • `run?_eq_steps` — a poll loop that returns `n` made `n` steps that count.
-/

namespace Coprocessor

/-! ## Transactions one after the other -/

namespace Transaction

/-- How transactions are resolved, one after the other. -/
def outcomes : Registers → List Transaction → List Outcome
  | _, [] => []
  | r, t :: ts => t.outcome r :: outcomes (t.effect r) ts

/-- The registers after transactions, one after the other. -/
def effects : Registers → List Transaction → Registers
  | r, [] => r
  | r, t :: ts => effects (t.effect r) ts

/-- Every transaction has its outcome. -/
@[simp] theorem length_outcomes (r : Registers) (ts : List Transaction) :
    (outcomes r ts).length = ts.length := by
  induction ts generalizing r with
  | nil => rfl
  | cons t ts ih => simp only [outcomes, List.length_cons, ih]

/-- What happens on a bus while one transaction is handled. -/
def block (t : Transaction) (o : Outcome) : List Event :=
  [.polled t, .busy true] ++ o.data?.toList.map (.responded t.address) ++ [.busy false]

/-- What is recorded as the answer to a transaction. -/
def response (t : Transaction) (o : Outcome) : List (Transaction × List UInt8) :=
  o.data?.toList.map fun data => (t, data)

end Transaction

namespace Device

section

variable {β : Type}

@[simp] theorem registers_note (d : Device β) (e : Entry) :
    (d.note e).registers = d.registers := rfl

@[simp] theorem registers_countOutcome (d : Device β) (t : Transaction) (o : Outcome) :
    (d.countOutcome t o).registers = d.registers := by
  cases o <;> rfl

@[simp] theorem opcodes_countOutcome (d : Device β) (t : Transaction) (o : Outcome) :
    (d.countOutcome t o).opcodes = d.opcodes := by
  cases o <;> rfl

@[simp] theorem config_countOutcome (d : Device β) (t : Transaction) (o : Outcome) :
    (d.countOutcome t o).config = d.config := by
  cases o <;> rfl

end

/-! ## One step -/

/-- The queue after a transaction was taken, resolved and released. -/
def handledBus (q : Queue) (t : Transaction) (rest : List Transaction) (o : Outcome) : Queue :=
  let polled : Queue :=
    { q with
      pending := rest
      signals := { q.signals with enable := true, write := t.direction = .write }
      events := q.events.push (.polled t) }
  ((polled.setBusy true).answer t o).setBusy false

@[simp] theorem pending_handledBus (q : Queue) (t : Transaction) (rest : List Transaction)
    (o : Outcome) : (handledBus q t rest o).pending = rest := by
  cases o <;> rfl

/-- A transaction that is handled leaves its block of events. -/
theorem events_handledBus (q : Queue) (t : Transaction) (rest : List Transaction) (o : Outcome) :
    (handledBus q t rest o).events.toList = q.events.toList ++ t.block o := by
  cases h : o.data? with
  | none => simp [handledBus, Queue.answer, h, Queue.setBusy, Transaction.block]
  | some data =>
      simp [handledBus, Queue.answer, h, Queue.setBusy, Queue.respond, Transaction.block]

/-- Its answer, if it has one, stands behind the earlier ones. -/
theorem responses_handledBus (q : Queue) (t : Transaction) (rest : List Transaction)
    (o : Outcome) :
    (handledBus q t rest o).responses.toList = q.responses.toList ++ t.response o := by
  cases h : o.data? with
  | none => simp [handledBus, Queue.answer, h, Queue.setBusy, Transaction.response]
  | some data =>
      simp [handledBus, Queue.answer, h, Queue.setBusy, Queue.respond, Transaction.response]

/-- The device after the first waiting transaction was handled. -/
def handle (d : Device Queue) (t : Transaction) (rest : List Transaction) : Device Queue :=
  let o := t.outcome d.registers
  let polled : Device Queue :=
    { d with
      counters := { d.counters with polled := d.counters.polled + 1 } }.note (.polled t)
  { polled.withRegisters (t.effect d.registers) with
    bus := handledBus d.bus t rest o }.countOutcome t o

variable {d : Device Queue} {t : Transaction} {rest : List Transaction}

/-- A step that finds nothing changes nothing. -/
theorem step_of_nil (h : d.bus.pending = []) : d.step = (none, d) := by
  simp only [step, Bus.poll, Queue.poll, h]

/-- A step handles the first waiting transaction. -/
theorem step_of_cons (h : d.bus.pending = t :: rest) :
    d.step = (some (t.outcome d.registers), d.handle t rest) := by
  simp only [step, Bus.poll, Queue.poll, h, Bus.setBusy, Transaction.resolve_eq, registers_note]
  rfl

/-- Handling a transaction has its effect on the registers. -/
@[simp] theorem registers_handle : (d.handle t rest).registers = t.effect d.registers := by
  simp only [handle, registers_countOutcome]
  rfl

/-- No transaction reaches the opcode slots. -/
@[simp] theorem opcodes_handle : (d.handle t rest).opcodes = d.opcodes := by
  simp only [handle, opcodes_countOutcome]
  rfl

@[simp] theorem config_handle : (d.handle t rest).config = d.config := by
  simp only [handle, config_countOutcome]
  rfl

/-- What handling does to the bus follows from the outcome alone. -/
theorem bus_handle :
    (d.handle t rest).bus = handledBus d.bus t rest (t.outcome d.registers) := by
  simp only [handle, bus_countOutcome]

@[simp] theorem pending_handle : (d.handle t rest).bus.pending = rest := by
  rw [bus_handle, pending_handledBus]

/-- Handling a transaction leaves every line at rest. -/
theorem signals_handle : (d.handle t rest).bus.signals = .idle := by
  rw [bus_handle]
  rfl

/-- Handling a transaction records its block of events. -/
theorem events_handle :
    (d.handle t rest).bus.events.toList
      = d.bus.events.toList ++ t.block (t.outcome d.registers) := by
  rw [bus_handle, events_handledBus]

/-- Handling a transaction records its answer. -/
theorem responses_handle :
    (d.handle t rest).bus.responses.toList
      = d.bus.responses.toList ++ t.response (t.outcome d.registers) := by
  rw [bus_handle, responses_handledBus]

/-! ## A number of steps -/

/-- Makes a number of steps and returns the outcomes of those that found a
    transaction. -/
def steps {β : Type} [Bus β] : Nat → Device β → List Outcome × Device β
  | 0, d => ([], d)
  | n + 1, d =>
      let (first, d) := d.step
      let (more, last) := steps n d
      (first.toList ++ more, last)

/-- Without transactions, steps do nothing. -/
theorem steps_of_nil (h : d.bus.pending = []) (n : Nat) : steps n d = ([], d) := by
  induction n with
  | zero => rfl
  | succ n ih =>
      show (d.step.1.toList ++ (steps n d.step.2).1, (steps n d.step.2).2) = ([], d)
      rw [step_of_nil h]
      show (([] : List Outcome) ++ (steps n d).1, (steps n d).2) = ([], d)
      rw [ih]
      rfl

/-- A first step handles the first transaction. -/
theorem steps_of_cons (h : d.bus.pending = t :: rest) (n : Nat) :
    steps (n + 1) d
      = (t.outcome d.registers :: (steps n (d.handle t rest)).1,
          (steps n (d.handle t rest)).2) := by
  show (d.step.1.toList ++ (steps n d.step.2).1, (steps n d.step.2).2) = _
  rw [step_of_cons h]
  rfl

/-- The outcomes of steps follow from the registers and the queue alone. -/
theorem steps_fst (n : Nat) (d : Device Queue) :
    (steps n d).1 = Transaction.outcomes d.registers (d.bus.pending.take n) := by
  induction n generalizing d with
  | zero => rw [List.take_zero]; rfl
  | succ n ih =>
      cases h : d.bus.pending with
      | nil => rw [steps_of_nil h, List.take_nil]; rfl
      | cons t rest =>
          rw [steps_of_cons h, ih, registers_handle, pending_handle, List.take_succ_cons]
          rfl

/-- So do the registers after them. -/
theorem registers_steps (n : Nat) (d : Device Queue) :
    (steps n d).2.registers = Transaction.effects d.registers (d.bus.pending.take n) := by
  induction n generalizing d with
  | zero => rw [List.take_zero]; rfl
  | succ n ih =>
      cases h : d.bus.pending with
      | nil => rw [steps_of_nil h, List.take_nil]; rfl
      | cons t rest =>
          rw [steps_of_cons h, ih, registers_handle, pending_handle, List.take_succ_cons]
          rfl

/-- Steps leave the opcode slots alone. -/
theorem opcodes_steps (n : Nat) (d : Device Queue) : (steps n d).2.opcodes = d.opcodes := by
  induction n generalizing d with
  | zero => rfl
  | succ n ih =>
      cases h : d.bus.pending with
      | nil => rw [steps_of_nil h]
      | cons t rest => rw [steps_of_cons h, ih, opcodes_handle]

/-- Steps keep the configuration. -/
theorem config_steps (n : Nat) (d : Device Queue) : (steps n d).2.config = d.config := by
  induction n generalizing d with
  | zero => rfl
  | succ n ih =>
      cases h : d.bus.pending with
      | nil => rw [steps_of_nil h]
      | cons t rest => rw [steps_of_cons h, ih, config_handle]

/-- Steps take transactions from the front of the queue. -/
theorem pending_steps (n : Nat) (d : Device Queue) :
    (steps n d).2.bus.pending = d.bus.pending.drop n := by
  induction n generalizing d with
  | zero => rfl
  | succ n ih =>
      cases h : d.bus.pending with
      | nil => rw [steps_of_nil h, h, List.drop_nil]
      | cons t rest => rw [steps_of_cons h, ih, pending_handle, List.drop_succ_cons]

/-! ## The loops are steps -/

/-- Draining is one step for each waiting transaction. -/
theorem drain_eq_steps (d : Device Queue) : d.drain = steps d.bus.pending.length d := by
  -- by the length of the queue, which is also what the loop ends by
  induction hn : d.bus.pending.length generalizing d with
  | zero =>
      have h : d.bus.pending = [] := List.eq_nil_of_length_eq_zero hn
      rw [drain, step_of_nil h]
      rfl
  | succ n ih =>
      obtain ⟨t, rest, h⟩ := List.exists_cons_of_length_eq_add_one hn
      have hrest : (d.handle t rest).bus.pending.length = n := by
        rw [pending_handle]
        rw [h, List.length_cons] at hn
        omega
      rw [drain, step_of_cons h, steps_of_cons h]
      simp only [ih _ hrest]

/-- How many waiting transactions the budget leaves room for. -/
def room (d : Device Queue) (handled : Nat) : Nat :=
  match d.config.budget with
  | none => d.bus.pending.length
  | some limit => min d.bus.pending.length (limit.toNat - handled)

/-- A budget that is spent leaves no room. -/
theorem room_of_spent {handled : Nat} (h : d.config.budgetSpent handled = true) :
    d.room handled = 0 := by
  cases hb : d.config.budget with
  | none =>
      rw [Config.budgetSpent, hb] at h
      exact nomatch h
  | some limit =>
      rw [Config.budgetSpent, hb] at h
      have hle : limit.toNat ≤ handled := of_decide_eq_true h
      rw [room, hb]
      show min d.bus.pending.length (limit.toNat - handled) = 0
      omega

/-- An empty queue needs no room. -/
theorem room_of_nil (h : d.bus.pending = []) (handled : Nat) : d.room handled = 0 := by
  cases hb : d.config.budget with
  | none => rw [room, hb, h]; rfl
  | some limit => rw [room, hb, h]; exact Nat.zero_min _

/-- A budget that is not spent has room for the first transaction and for what is left
    behind it. -/
theorem room_of_cons {handled : Nat} (hspent : d.config.budgetSpent handled = false)
    (h : d.bus.pending = t :: rest) :
    d.room handled = (d.handle t rest).room (handled + 1) + 1 := by
  cases hb : d.config.budget with
  | none => simp only [room, config_handle, pending_handle, hb, h, List.length_cons]
  | some limit =>
      rw [Config.budgetSpent, hb] at hspent
      have hlt : ¬ limit.toNat ≤ handled := of_decide_eq_false hspent
      simp only [room, config_handle, pending_handle, hb, h, List.length_cons]
      omega

/-- A run until idle is one step for each transaction there is room for. -/
theorem runUntilIdleFrom_eq_steps (handled : Nat) (d : Device Queue) :
    runUntilIdleFrom handled d = (handled + d.room handled, (steps (d.room handled) d).2) := by
  induction hn : d.bus.pending.length generalizing handled d with
  | zero =>
      have h : d.bus.pending = [] := List.eq_nil_of_length_eq_zero hn
      rw [runUntilIdleFrom, step_of_nil h, room_of_nil h]
      exact ite_self _
  | succ n ih =>
      obtain ⟨t, rest, h⟩ := List.exists_cons_of_length_eq_add_one hn
      have hrest : (d.handle t rest).bus.pending.length = n := by
        rw [pending_handle]
        rw [h, List.length_cons] at hn
        omega
      rw [runUntilIdleFrom, step_of_cons h]
      cases hspent : d.config.budgetSpent handled with
      | true =>
          rw [room_of_spent hspent]
          rfl
      | false =>
          rw [if_neg Bool.false_ne_true, room_of_cons hspent h, steps_of_cons h]
          simp only [ih _ _ hrest]
          rw [Nat.add_right_comm, Nat.add_assoc]

/-- A run until idle is as many steps as there is room for. -/
theorem runUntilIdle_eq_steps (d : Device Queue) :
    d.runUntilIdle = (d.room 0, (steps (d.room 0) d).2) := by
  rw [runUntilIdle, runUntilIdleFrom_eq_steps, Nat.zero_add]

/-- A poll loop that returns made a step for each transaction it counted. -/
theorem pollFrom_eq_steps {stop : Nat → Queue → Bool} {looks seen handled n : Nat}
    {d last : Device Queue} (h : pollFrom stop looks seen handled d = some (n, last)) :
    ∃ k, n = handled + k ∧ k ≤ d.bus.pending.length ∧ last = (steps k d).2 := by
  induction looks generalizing seen handled d with
  | zero => exact nomatch h
  | succ looks ih =>
      rw [pollFrom] at h
      by_cases hstop : (stop seen d.bus || d.config.budgetSpent handled) = true
      · rw [if_pos hstop] at h
        obtain ⟨rfl, rfl⟩ := Prod.mk.inj (Option.some.inj h)
        exact ⟨0, rfl, Nat.zero_le _, rfl⟩
      · rw [if_neg hstop] at h
        cases hp : d.bus.pending with
        | nil =>
            rw [step_of_nil hp] at h
            obtain ⟨k, hn, hk, hlast⟩ := ih h
            exact ⟨k, hn, hp ▸ hk, hlast⟩
        | cons t rest =>
            rw [step_of_cons hp] at h
            obtain ⟨k, hn, hk, hlast⟩ := ih h
            rw [pending_handle] at hk
            refine ⟨k + 1, ?_, Nat.succ_le_succ hk, ?_⟩
            · rw [hn, Nat.add_right_comm, Nat.add_assoc]
            · rw [hlast, steps_of_cons hp]

/-- A poll loop that ended is steps between its first entry in the log and its last. -/
theorem run?_eq_steps {stop : Nat → Queue → Bool} {looks n : Nat} {d last : Device Queue}
    (h : run? stop looks d = some (n, last)) :
    n ≤ d.bus.pending.length
      ∧ last = (steps n (d.note (.loopStarted d.config))).2.note (.loopStopped n) := by
  rw [run?] at h
  split at h
  next handled d' hpoll =>
    obtain ⟨rfl, rfl⟩ := Prod.mk.inj (Option.some.inj h)
    obtain ⟨k, hn, hk, hlast⟩ := pollFrom_eq_steps hpoll
    rw [Nat.zero_add] at hn
    subst hn
    exact ⟨hk, congrArg (fun e => note e (.loopStopped handled)) hlast⟩
  next => exact nomatch h

end Device

end Coprocessor
