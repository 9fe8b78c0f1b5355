import Coprocessor.Proofs.Device.Action

/-!
# Counting — what the counters of a device say of each other

Whatever is done to a device on any bus, in whatever order: every transaction
that was taken was answered, written or dropped; the violations are the dropped
transactions of a strict device, and a lenient one has none; and no more
operations failed than were tried.

  • `Counters.resolved`, `Counters.operated` — the two ways in which counters
    grow, as functions of the counters alone.
  • `Counters.Balanced` — the invariant, kept by both: `Balanced.resolved` and
    `Balanced.operated`.
  • `Reachable` — the devices that calls and accesses from outside can make of a
    new one. Storage and bus may be changed at will, the counters may not.
  • `reachable_performAll` — on a queue every list of calls, scripts among them,
    leads from reachable devices to reachable devices.
  • `counters_balanced` — these together.

The violations equal the drops because no transaction is dropped for its
address, which `outcome_ne_outOfRange` says of a single one.
-/

namespace Coprocessor

/-! ## How counters grow -/

namespace Counters

/-- The counters after a transaction was taken and resolved. -/
def resolved (c : Counters) (strict : Bool) : Outcome → Counters
  | .written _ _ => { c with polled := c.polled + 1, written := c.written + 1 }
  | .responded _ _ => { c with polled := c.polled + 1, responded := c.responded + 1 }
  | .dropped reason =>
      { c with
        polled := c.polled + 1
        dropped := c.dropped + 1
        violations := c.violations + if reason.isViolation && strict then 1 else 0 }

/-- The counters after an operation came to a result. -/
def operated (c : Counters) : Except OperationError Unit → Counters
  | .ok () => { c with operations := c.operations + 1 }
  | .error _ =>
      { c with
        operations := c.operations + 1
        failedOperations := c.failedOperations + 1 }

/-- What the counters of a device say of each other. -/
structure Balanced (c : Counters) (strict : Bool) : Prop where
  polled : c.polled = c.responded + c.written + c.dropped
  violations : c.violations = if strict then c.dropped else 0
  failed : c.failedOperations ≤ c.operations

/-- Counters begin in balance. -/
theorem balanced_zero (strict : Bool) : Balanced {} strict where
  polled := rfl
  violations := by cases strict <;> rfl
  failed := Nat.le_refl 0

variable {c : Counters} {strict : Bool}

/-- A transaction that is resolved by its shape keeps the balance. -/
theorem Balanced.resolved (h : c.Balanced strict) (t : Transaction) (r : Registers) :
    (c.resolved strict (t.outcome r)).Balanced strict := by
  obtain ⟨hpolled, hviolations, hfailed⟩ := h
  cases ho : t.outcome r with
  | written space address =>
      refine ⟨?_, hviolations, hfailed⟩
      show c.polled + 1 = c.responded + (c.written + 1) + c.dropped
      omega
  | responded address data =>
      refine ⟨?_, hviolations, hfailed⟩
      show c.polled + 1 = c.responded + 1 + c.written + c.dropped
      omega
  | dropped reason =>
      refine ⟨?_, ?_, hfailed⟩
      · show c.polled + 1 = c.responded + c.written + (c.dropped + 1)
        omega
      · cases reason with
        | registerOutOfRange e => exact absurd ho (t.outcome_ne_outOfRange r e)
        | unsupported direction length =>
            show (c.violations + if (true && strict) = true then 1 else 0)
              = if strict = true then c.dropped + 1 else 0
            cases strict with
            | true => exact congrArg (· + 1) hviolations
            | false => exact hviolations

/-- An operation is counted once, and once more if it failed. -/
theorem Balanced.operated (h : c.Balanced strict) (result : Except OperationError Unit) :
    (c.operated result).Balanced strict := by
  obtain ⟨hpolled, hviolations, hfailed⟩ := h
  cases result with
  | ok _ => exact ⟨hpolled, hviolations, Nat.le_succ_of_le hfailed⟩
  | error e => exact ⟨hpolled, hviolations, Nat.succ_le_succ hfailed⟩

end Counters

namespace Device

open Script (ScriptLine Command)

/-! ## What each call does to the counters -/

section

variable {β : Type}

/-- A device is created cleared, and only with a configuration that is accepted. -/
theorem eq_start_of_create {bus : β} {config : Config} {d : Device β}
    (h : create bus config = .ok d) :
    config.check = .ok () ∧ d = start bus config := by
  rw [create] at h
  cases hcheck : config.check with
  | error e =>
      rw [hcheck] at h
      exact nomatch h
  | ok _ =>
      rw [hcheck] at h
      exact ⟨rfl, (Except.ok.inj h).symm⟩

/-- A dispatch counts nothing. -/
theorem counters_dispatch (d : Device β) (q : Request) :
    (d.dispatch q).2.counters = d.counters ∧ (d.dispatch q).2.config = d.config := by
  rw [dispatch]
  split
  next => exact ⟨rfl, rfl⟩
  next => exact ⟨rfl, rfl⟩

/-- An operation is counted by its result. -/
theorem counters_execute (d : Device β) (q : Request) :
    (d.execute q).2.counters = d.counters.operated (d.execute q).1
      ∧ (d.execute q).2.config = d.config := by
  obtain ⟨hcounters, hconfig⟩ := d.counters_dispatch q
  show ((d.dispatch q).2.countOperation q (d.dispatch q).1).counters
      = d.counters.operated (d.dispatch q).1
    ∧ ((d.dispatch q).2.countOperation q (d.dispatch q).1).config = d.config
  rw [← hcounters, ← hconfig]
  cases (d.dispatch q).1 with
  | ok _ => exact ⟨rfl, rfl⟩
  | error e => exact ⟨rfl, rfl⟩

theorem counters_executeRaw (d : Device β) (number : UInt8) (destination source0 source1 : UInt64) :
    (d.executeRaw number destination source0 source1).2.counters = d.counters
      ∧ (d.executeRaw number destination source0 source1).2.config = d.config := by
  rw [executeRaw]
  split
  next => exact ⟨rfl, rfl⟩
  next op _ => exact d.counters_dispatch _

/-- A slot is counted only when its record is executed. -/
theorem counters_executeSlot (d : Device β) (slot : UInt64) (op : Operation) :
    ((d.executeSlot slot op).2.counters = d.counters
        ∨ ∃ result, (d.executeSlot slot op).2.counters = d.counters.operated result)
      ∧ (d.executeSlot slot op).2.config = d.config := by
  rw [executeSlot]
  split
  next => exact ⟨.inl rfl, rfl⟩
  next record _ =>
    split
    next q _ =>
      obtain ⟨hcounters, hconfig⟩ := d.counters_execute q
      exact ⟨.inr ⟨_, hcounters⟩, hconfig⟩
    next => exact ⟨.inl rfl, rfl⟩

/-- An outcome is counted after the poll. -/
theorem counters_countOutcome {polled : Device β} {c : Counters}
    (h : polled.counters = { c with polled := c.polled + 1 }) (t : Transaction) (o : Outcome) :
    (polled.countOutcome t o).counters = c.resolved polled.config.strict o := by
  cases o with
  | written space address =>
      show { polled.counters with written := polled.counters.written + 1 } = _
      rw [h]
      rfl
  | responded address data =>
      show { polled.counters with responded := polled.counters.responded + 1 } = _
      rw [h]
      rfl
  | dropped reason =>
      simp only [countOutcome, note, Counters.resolved, h]

variable [Bus β] {d next : Device β}

/-- A step that finds a transaction counts how it was resolved. -/
theorem counters_step {o : Outcome} (h : d.step = (some o, next)) :
    (∃ t : Transaction, o = t.outcome d.registers)
      ∧ next.counters = d.counters.resolved d.config.strict o
      ∧ next.config = d.config := by
  rw [step] at h
  split at h
  next => cases h
  next t bus hpoll =>
    obtain ⟨ho, rfl⟩ := Prod.mk.inj h
    obtain rfl := Option.some.inj ho
    exact ⟨⟨t, Transaction.resolve_fst t _ _⟩, counters_countOutcome rfl t _,
      config_countOutcome _ t _⟩

/-- A step that finds nothing changes the bus alone. -/
theorem eq_of_step_none (h : d.step = (none, next)) : next = { d with bus := next.bus } := by
  rw [step] at h
  split at h
  next bus hpoll =>
    obtain ⟨-, rfl⟩ := Prod.mk.inj h
    rfl
  next => cases h

end

/-! ## Reachable devices -/

/-- A run until idle on any bus: it starts with `handled` transactions handled and
    ends with `total`, when the budget is spent or a poll finds nothing. -/
inductive Idles {β : Type} [Bus β] : Nat → Device β → Nat → Device β → Prop where
  | spent {handled : Nat} {d : Device β} :
      d.config.budgetSpent handled = true → Idles handled d handled d
  | empty {handled : Nat} {d last : Device β} :
      d.config.budgetSpent handled = false → d.step = (none, last) →
        Idles handled d handled last
  | more {handled total : Nat} {d next last : Device β} {o : Outcome} :
      d.config.budgetSpent handled = false → d.step = (some o, next) →
        Idles (handled + 1) next total last → Idles handled d total last

/-- The devices that calls and accesses from outside, in any order, make of a new
    device on any bus. -/
inductive Reachable {β : Type} [Bus β] : Device β → Prop where
  | create {bus : β} {config : Config} {d : Device β} :
      create bus config = .ok d → Reachable d
  | withDefaults (bus : β) : Reachable (withDefaults bus)
  | step {d : Device β} : Reachable d → Reachable d.step.2
  | runUntilIdle {d last : Device β} {total : Nat} :
      Reachable d → Idles 0 d total last → Reachable last
  | poll {d last : Device β} {stop : Nat → β → Bool} {looks total : Nat} :
      Reachable d → d.run? stop looks = some (total, last) → Reachable last
  | execute {d : Device β} (q : Request) : Reachable d → Reachable (d.execute q).2
  | executeRaw {d : Device β} (number : UInt8) (destination source0 source1 : UInt64) :
      Reachable d → Reachable (d.executeRaw number destination source0 source1).2
  | executeSlot {d : Device β} (slot : UInt64) (op : Operation) :
      Reachable d → Reachable (d.executeSlot slot op).2
  | reset {d : Device β} : Reachable d → Reachable d.reset
  /-- Registers, opcode slots and the bus are open to every change, by a write, a
      push, a restored snapshot or otherwise, and so is the log. -/
  | access {d : Device β} (storage : Storage) (bus : β) (log : Journal Entry) :
      Reachable d → Reachable { d with storage, bus, log }

section

variable {β : Type} [Bus β] {d last : Device β}

theorem balanced_step (h : d.counters.Balanced d.config.strict) :
    d.step.2.counters.Balanced d.step.2.config.strict := by
  cases hstep : d.step with
  | mk found next =>
      cases found with
      | none =>
          rw [eq_of_step_none hstep]
          exact h
      | some o =>
          obtain ⟨⟨t, rfl⟩, hcounters, hconfig⟩ := counters_step hstep
          rw [hcounters, hconfig]
          exact h.resolved t d.registers

/-- A run until idle keeps the balance, step by step. -/
theorem balanced_idles {handled total : Nat} (hidles : d.Idles handled total last)
    (h : d.counters.Balanced d.config.strict) : last.counters.Balanced last.config.strict := by
  induction hidles with
  | spent _ => exact h
  | empty _ hstep =>
      have hnext := balanced_step h
      rw [hstep] at hnext
      exact hnext
  | more _ hstep _ ih =>
      have hnext := balanced_step h
      rw [hstep] at hnext
      exact ih hnext

/-- A poll loop keeps the balance, look by look. -/
theorem balanced_pollFrom {stop : Nat → β → Bool} {looks seen handled total : Nat}
    (hpoll : pollFrom stop looks seen handled d = some (total, last))
    (h : d.counters.Balanced d.config.strict) : last.counters.Balanced last.config.strict := by
  induction looks generalizing seen handled d with
  | zero => exact nomatch hpoll
  | succ looks ih =>
      rw [pollFrom] at hpoll
      split at hpoll
      next =>
        obtain ⟨-, rfl⟩ := Prod.mk.inj (Option.some.inj hpoll)
        exact h
      next =>
        have hnext := balanced_step h
        -- whether or not the step found a transaction, the loop goes on behind it
        split at hpoll
        next hstep =>
          rw [hstep] at hnext
          exact ih hpoll hnext
        next hstep =>
          rw [hstep] at hnext
          exact ih hpoll hnext

theorem balanced_run? {stop : Nat → β → Bool} {looks total : Nat}
    (hrun : d.run? stop looks = some (total, last))
    (h : d.counters.Balanced d.config.strict) : last.counters.Balanced last.config.strict := by
  rw [run?] at hrun
  cases hpoll : pollFrom stop looks 0 0 (d.note (.loopStarted d.config)) with
  | none =>
      rw [hpoll] at hrun
      cases hrun
  | some run =>
      obtain ⟨handled, d'⟩ := run
      rw [hpoll] at hrun
      obtain ⟨-, rfl⟩ := Prod.mk.inj (Option.some.inj hrun)
      have hstart : (d.note (.loopStarted d.config)).counters.Balanced d.config.strict := h
      have hstop : d'.counters.Balanced d'.config.strict := balanced_pollFrom hpoll hstart
      exact hstop

/-- Counters are in balance wherever a device can get. -/
theorem balanced_of_reachable (h : d.Reachable) : d.counters.Balanced d.config.strict := by
  induction h with
  | create hcreate =>
      obtain ⟨-, rfl⟩ := eq_start_of_create hcreate
      exact Counters.balanced_zero _
  | withDefaults bus => exact Counters.balanced_zero _
  | step _ ih => exact balanced_step ih
  | runUntilIdle _ hidles ih => exact balanced_idles hidles ih
  | poll _ hrun ih => exact balanced_run? hrun ih
  | @execute d q _ ih =>
      obtain ⟨hcounters, hconfig⟩ := d.counters_execute q
      rw [hcounters, hconfig]
      exact ih.operated _
  | @executeRaw d number destination source0 source1 _ ih =>
      obtain ⟨hcounters, hconfig⟩ := d.counters_executeRaw number destination source0 source1
      rw [hcounters, hconfig]
      exact ih
  | @executeSlot d slot op _ ih =>
      obtain ⟨hcounters | ⟨result, hcounters⟩, hconfig⟩ := d.counters_executeSlot slot op
      · rw [hcounters, hconfig]
        exact ih
      · rw [hcounters, hconfig]
        exact ih.operated result
  | reset _ _ => exact Counters.balanced_zero _
  | access storage bus log _ ih => exact ih

end

/-! ## Calls on a queue -/

section

variable {d last : Device Queue}

/-- An entry in the log leads nowhere else. -/
theorem Reachable.note (h : d.Reachable) (e : Entry) : (d.note e).Reachable :=
  h.access d.storage d.bus (d.log.push e)

/-- Pushing is an access to the bus. -/
theorem Reachable.push (h : d.Reachable) (t : Transaction) : (d.push t).Reachable :=
  h.access d.storage (d.bus.push t) d.log

theorem Reachable.steps (h : d.Reachable) (n : Nat) : (d.steps n).2.Reachable := by
  induction n generalizing d with
  | zero => exact h
  | succ n ih => exact ih h.step

/-- Draining is stepping until nothing waits. -/
theorem Reachable.drain (h : d.Reachable) : d.drain.2.Reachable := by
  rw [drain_eq_steps]
  exact h.steps _

/-- The loop on a queue is a run until idle. -/
theorem idles_runUntilIdle (d : Device Queue) :
    d.Idles 0 d.runUntilIdle.1 d.runUntilIdle.2 := by
  rw [Device.runUntilIdle]
  fun_induction runUntilIdleFrom 0 d with
  | case1 handled d hspent => exact .spent hspent
  | case2 handled d hspent last hstep => exact .empty (Bool.eq_false_iff.2 hspent) hstep
  | case3 handled d hspent o next hstep ih =>
      exact .more (Bool.eq_false_iff.2 hspent) hstep ih

/-- A change that may be refused leads to a reachable device if it does where it is made. -/
theorem Reachable.attempt (h : d.Reachable) {α ε : Type} (access : Except ε α)
    {change : α → Device Queue} (hchange : ∀ a, (change a).Reachable) :
    (d.attempt (access.map change)).2.Reachable := by
  cases access with
  | ok a => exact hchange a
  | error e => exact h

/-- A snapshot is storage like any other. -/
theorem Reachable.restore (h : d.Reachable) (s : Snapshot) :
    (d.attempt (d.restore s)).2.Reachable := by
  rw [Device.restore]
  split
  next storage _ => exact h.access storage d.bus d.log
  next => exact h

/-- Commands of a script are calls. -/
theorem Reachable.command (h : d.Reachable) (c : Command) : (c.run d).2.Reachable := by
  cases c with
  | transaction t => exact (h.push t).drain
  | opcode slot record =>
      cases hw : d.opcodes.write slot.toNat record with
      | ok s =>
          simp only [Command.run, writeOpcode, hw]
          exact h.access { d.storage with opcodes := s } d.bus d.log
      | error e =>
          simp only [Command.run, writeOpcode, hw]
          exact h
  | execute q => exact h.execute q
  | executeSlot slot op => exact h.executeSlot slot op
  | reset => exact h.reset

theorem Reachable.script (h : d.Reachable) (lines : List ScriptLine) :
    (Script.run lines d).2.Reachable := by
  induction lines generalizing d with
  | nil => exact h
  | cons l rest ih =>
      refine ih ?_
      have hcommand := h.command l.command
      show (l.run d).2.Reachable
      rw [ScriptLine.run]
      split
      next report d' hrun =>
        rw [hrun] at hcommand
        exact hcommand.note _
      next d' hrun =>
        rw [hrun] at hcommand
        exact hcommand

/-- Every call leads from reachable devices to reachable ones. -/
theorem Reachable.perform (h : d.Reachable) {a : Action} {answer : Answer}
    (ha : a.perform d = some (answer, last)) : last.Reachable := by
  cases a with
  | poll stop looks =>
      obtain ⟨⟨n, last'⟩, hrun, heq⟩ := Option.map_eq_some_iff.1 ha
      obtain ⟨-, rfl⟩ := Prod.mk.inj heq
      exact h.poll hrun
  | push t =>
      obtain ⟨-, rfl⟩ := Prod.mk.inj (Option.some.inj ha)
      exact h.push t
  | step =>
      obtain ⟨-, rfl⟩ := Prod.mk.inj (Option.some.inj ha)
      exact h.step
  | runUntilIdle =>
      obtain ⟨-, rfl⟩ := Prod.mk.inj (Option.some.inj ha)
      exact h.runUntilIdle d.idles_runUntilIdle
  | script lines =>
      obtain ⟨-, rfl⟩ := Prod.mk.inj (Option.some.inj ha)
      exact h.script lines
  | execute q =>
      obtain ⟨-, rfl⟩ := Prod.mk.inj (Option.some.inj ha)
      exact h.execute q
  | executeRaw number destination source0 source1 =>
      obtain ⟨-, rfl⟩ := Prod.mk.inj (Option.some.inj ha)
      exact h.executeRaw number destination source0 source1
  | executeSlot slot op =>
      obtain ⟨-, rfl⟩ := Prod.mk.inj (Option.some.inj ha)
      exact h.executeSlot slot op
  -- direct access to storage, whether it is refused or not
  | write32 _ _ | write64 _ _ =>
      obtain ⟨-, rfl⟩ := Prod.mk.inj (Option.some.inj ha)
      exact h.attempt _ fun r => h.access { d.storage with registers := r } d.bus d.log
  | writeOpcode _ _ =>
      obtain ⟨-, rfl⟩ := Prod.mk.inj (Option.some.inj ha)
      exact h.attempt _ fun s => h.access { d.storage with opcodes := s } d.bus d.log
  | reset =>
      obtain ⟨-, rfl⟩ := Prod.mk.inj (Option.some.inj ha)
      exact h.reset
  | snapshot =>
      obtain ⟨-, rfl⟩ := Prod.mk.inj (Option.some.inj ha)
      exact h
  | restore s =>
      obtain ⟨-, rfl⟩ := Prod.mk.inj (Option.some.inj ha)
      exact h.restore s

theorem reachable_performAll {actions : List Action} {answers : List Answer}
    (h : d.Reachable) (hrun : performAll actions d = some (answers, last)) : last.Reachable := by
  induction actions generalizing d answers with
  | nil =>
      obtain ⟨-, rfl⟩ := Prod.mk.inj (Option.some.inj hrun)
      exact h
  | cons a rest ih =>
      obtain ⟨answer, next, more, ha, hrest, -⟩ := performAll_cons hrun
      exact ih (h.perform ha) hrest

end

/-- **The counters are balanced**: on any bus, after any calls to a device and any
    changes of its storage and its bus from outside, as many transactions were
    taken as were answered, written or dropped; a strict device counts every drop
    as a violation and a lenient one none; and no more operations failed than were
    tried. No step ever drops a transaction for its address. Whatever scripts and
    other calls are carried out on a queue, the device stays reachable. -/
theorem counters_balanced :
    (∀ {β : Type} [Bus β] {d : Device β}, d.Reachable →
        d.counters.polled = d.counters.responded + d.counters.written + d.counters.dropped
          ∧ d.counters.violations = (if d.config.strict then d.counters.dropped else 0)
          ∧ d.counters.failedOperations ≤ d.counters.operations
          ∧ ∀ e next, d.step ≠ (some (.dropped (.registerOutOfRange e)), next))
      ∧ ∀ {d last : Device Queue} {actions : List Action} {answers : List Answer},
          d.Reachable → performAll actions d = some (answers, last) → last.Reachable := by
  constructor
  · intro β _ d h
    obtain ⟨hpolled, hviolations, hfailed⟩ := balanced_of_reachable h
    refine ⟨hpolled, hviolations, hfailed, ?_⟩
    intro e next hstep
    obtain ⟨⟨t, ht⟩, -, -⟩ := counters_step hstep
    exact t.outcome_ne_outOfRange d.registers e ht.symm
  · intro d last actions answers h hrun
    exact reachable_performAll h hrun

/-- A write of three bytes, a read, an operation without a destination and a slot
    that does not exist. -/
theorem counters_balanced_mixed :
    let d := withDefaults (Queue.ofList [⟨.write, 3, [1, 2, 3]⟩, .read 3])
    let actions : List Action :=
      [.step, .execute ⟨.single .add, 300, 0, 0⟩, .step, .executeSlot 5000 (.single .add)]
    d.Reachable
      ∧ ∃ answers last, performAll actions d = some (answers, last)
        ∧ last.Reachable
        ∧ last.counters.polled
            = last.counters.responded + last.counters.written + last.counters.dropped
        ∧ last.counters = ⟨2, 1, 0, 1, 1, 1, 1⟩ := by
  intro d actions
  have hstart : d.Reachable := .withDefaults _
  obtain ⟨hany, hqueue⟩ := counters_balanced
  have hrun : ∃ run, performAll actions d = some run := Option.isSome_iff_exists.1 rfl
  obtain ⟨⟨answers, last⟩, hrun⟩ := hrun
  have hlast : last.Reachable := hqueue hstart hrun
  have hcounters : (performAll actions d).map (fun run => run.2.counters)
      = some ⟨2, 1, 0, 1, 1, 1, 1⟩ := by decide
  rw [hrun] at hcounters
  exact ⟨hstart, answers, last, hrun, hlast, (hany hlast).1, Option.some.inj hcounters⟩

end Device

end Coprocessor
