import Coprocessor.Bus.Watched
import Coprocessor.Proofs.Device.Counting

/-!
# Peers — devices that step alike

What a step does depends on the storage, on the transactions that the bus hands
out, and of the configuration on nothing but its strictness. So two devices that
have these in common go on together, whatever else is different: the budget, the
poll interval, the log, and what a bus keeps for itself.

  • `Bus.Shows` — a bus seen as another one; `Watched.shows_bus` — a watched bus
    shows the bus below it.
  • `Peers` — the same storage and counters, and a bus that the other one shows.
  • `Peers.step`, `Peers.steps` — peers find the same and stay peers.
  • `config_step` — a step on any bus keeps the configuration.
  • `steps_add` — steps are taken in as many parts as one likes.
-/

namespace Coprocessor

/-! ## A bus behind a bus -/

/-- A bus seen as another one: both hand out the same transactions, and what is sent
    to the first is seen as sent to the second. -/
structure Bus.Shows {β γ : Type} [Bus β] [Bus γ] (view : β → γ) : Prop where
  poll (b : β) : Bus.poll (view b) = ((Bus.poll b).1, view (Bus.poll b).2)
  respond (b : β) (t : Transaction) (data : List UInt8) :
    Bus.respond (view b) t data = view (Bus.respond b t data)
  setBusy (b : β) (level : Bool) : Bus.setBusy (view b) level = view (Bus.setBusy b level)

/-- Every bus shows itself. -/
theorem Bus.shows_id {β : Type} [Bus β] : Bus.Shows (id : β → β) :=
  ⟨fun _ => rfl, fun _ _ _ => rfl, fun _ _ => rfl⟩

/-- Polling a watched bus polls the bus. -/
theorem Watched.poll_eq {β : Type} [Bus β] (w : Watched β) :
    Bus.poll w
      = ((Bus.poll w.bus).1,
          { w with
            bus := (Bus.poll w.bus).2
            polls := w.polls + 1
            emptyPolls := w.emptyPolls + (Bus.poll w.bus).1.isNone.toNat
            raised := w.raised
              || (Bus.poll w.bus).1.isNone && w.emptyPolls + 1 == w.patience }) := by
  show Watched.poll w = _
  rw [Watched.poll]
  cases Bus.poll w.bus with
  | mk found bus =>
      cases found with
      | none => rfl
      | some t => simp

/-- A watched bus shows the bus that is watched. -/
theorem Watched.shows_bus {β : Type} [Bus β] : Bus.Shows (Watched.bus : Watched β → β) where
  poll w := by rw [Watched.poll_eq]
  respond _ _ _ := rfl
  setBusy _ _ := rfl

/-- A transaction is resolved on both buses in the same way. -/
theorem Transaction.resolve_view {β γ : Type} [Bus β] [Bus γ] {view : β → γ}
    (hview : Bus.Shows view) (t : Transaction) (r : Registers) (b : β) :
    t.resolve r (view b)
      = ((t.resolve r b).1, (t.resolve r b).2.1, view (t.resolve r b).2.2) := by
  rcases t.shape_cases with h | h | h | h
  · rw [resolve_of_isWrite32 h, resolve_of_isWrite32 h]
  · rw [resolve_of_isWrite64 h, resolve_of_isWrite64 h]
  · rw [resolve_of_isRead h, resolve_of_isRead h, hview.respond]
  · rw [resolve_of_isUnsupported h, resolve_of_isUnsupported h]

namespace Device

/-! ## A step on any bus -/

/-- A device that took a transaction and counts what became of it; `bus` is as
    resolving left it. -/
def settled {β : Type} [Bus β] (d : Device β) (t : Transaction) (o : Outcome) (r : Registers)
    (bus : β) : Device β :=
  let polled : Device β :=
    { d with
      bus
      counters := { d.counters with polled := d.counters.polled + 1 } }.note (.polled t)
  { polled.withRegisters r with bus := Bus.setBusy bus false }.countOutcome t o

theorem bus_settled {β : Type} [Bus β] (d : Device β) (t : Transaction) (o : Outcome)
    (r : Registers) (bus : β) : (d.settled t o r bus).bus = Bus.setBusy bus false :=
  bus_countOutcome _ t o

/-- A step that finds a transaction resolves it with the busy line raised. -/
theorem step_of_poll {β : Type} [Bus β] {d : Device β} {t : Transaction} {bus : β}
    (h : Bus.poll d.bus = (some t, bus)) :
    d.step
      = (some (t.resolve d.registers (Bus.setBusy bus true)).1,
          d.settled t (t.resolve d.registers (Bus.setBusy bus true)).1
            (t.resolve d.registers (Bus.setBusy bus true)).2.1
            (t.resolve d.registers (Bus.setBusy bus true)).2.2) := by
  rw [step, h]
  rfl

/-- A step on any bus keeps the configuration. -/
theorem config_step {β : Type} [Bus β] (d : Device β) : d.step.2.config = d.config := by
  cases hstep : d.step with
  | mk found next =>
      cases found with
      | none => rw [eq_of_step_none hstep]
      | some o => exact (counters_step hstep).2.2

/-- Steps can be counted in two parts. -/
theorem steps_add {β : Type} [Bus β] (m n : Nat) (d : Device β) :
    steps (m + n) d
      = ((steps m d).1 ++ (steps n (steps m d).2).1, (steps n (steps m d).2).2) := by
  induction m generalizing d with
  | zero =>
      rw [Nat.zero_add]
      rfl
  | succ m ih =>
      rw [Nat.succ_add]
      show (d.step.1.toList ++ (steps (m + n) d.step.2).1, (steps (m + n) d.step.2).2) = _
      rw [ih]
      exact congrArg (fun found => (found, _)) (List.append_assoc _ _ _).symm

/-! ## Peers -/

/-- Devices with the same storage and counters and equally strict, the bus of the
    second being what the first one's shows. -/
structure Peers {β γ : Type} (view : β → γ) (d : Device β) (e : Device γ) : Prop where
  storage : e.storage = d.storage
  counters : e.counters = d.counters
  bus : e.bus = view d.bus
  strict : e.config.strict = d.config.strict

section

variable {β γ : Type} {view : β → γ} {d : Device β} {e : Device γ}

theorem Peers.registers (h : Peers view d e) : e.registers = d.registers :=
  congrArg Storage.registers h.storage

/-- Counting sees nothing of the bus. -/
theorem Peers.countOutcome (h : Peers view d e) (t : Transaction) (o : Outcome) :
    Peers view (d.countOutcome t o) (e.countOutcome t o) := by
  obtain ⟨hstorage, hcounters, hbus, hstrict⟩ := h
  cases o with
  | written space address =>
      exact ⟨hstorage, congrArg (fun c => { c with written := c.written + 1 }) hcounters, hbus,
        hstrict⟩
  | responded address data =>
      exact ⟨hstorage, congrArg (fun c => { c with responded := c.responded + 1 }) hcounters,
        hbus, hstrict⟩
  | dropped reason =>
      refine ⟨hstorage, ?_, hbus, hstrict⟩
      simp only [Device.countOutcome, note, hcounters, hstrict]

variable [Bus β] [Bus γ] (hview : Bus.Shows view)

include hview

/-- What is left of a transaction is settled alike on both buses. -/
theorem Peers.settled (h : Peers view d e) (t : Transaction) (o : Outcome) (r : Registers)
    (b : β) : Peers view (d.settled t o r b) (e.settled t o r (view b)) := by
  refine Peers.countOutcome ?_ t o
  refine ⟨?_, ?_, hview.setBusy b false, h.strict⟩
  · exact congrArg (fun s => { s with registers := r }) h.storage
  · exact congrArg (fun c => { c with polled := c.polled + 1 }) h.counters

/-- Peers find the same and stay peers. -/
theorem Peers.step (h : Peers view d e) :
    e.step.1 = d.step.1 ∧ Peers view d.step.2 e.step.2 := by
  have hpoll : Bus.poll e.bus = ((Bus.poll d.bus).1, view (Bus.poll d.bus).2) := by
    rw [h.bus, hview.poll]
  cases hbus : Bus.poll d.bus with
  | mk found b =>
      rw [hbus] at hpoll
      cases found with
      | none =>
          rw [Device.step, Device.step, hpoll, hbus]
          exact ⟨rfl, h.storage, h.counters, rfl, h.strict⟩
      | some t =>
          rw [step_of_poll hpoll, step_of_poll hbus, h.registers, hview.setBusy,
            Transaction.resolve_view hview]
          exact ⟨rfl, h.settled hview t _ _ _⟩

/-- Steps on a bus and on what it shows have the same outcomes. -/
theorem Peers.steps (h : Peers view d e) (n : Nat) :
    (steps n e).1 = (steps n d).1 ∧ Peers view (steps n d).2 (steps n e).2 := by
  induction n generalizing d e with
  | zero => exact ⟨rfl, h⟩
  | succ n ih =>
      obtain ⟨hfound, hnext⟩ := h.step hview
      obtain ⟨hmore, hlast⟩ := ih hnext
      refine ⟨?_, hlast⟩
      show e.step.1.toList ++ (Device.steps n e.step.2).1
        = d.step.1.toList ++ (Device.steps n d.step.2).1
      rw [hfound, hmore]

end

end Device

end Coprocessor
