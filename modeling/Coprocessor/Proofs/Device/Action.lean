import Coprocessor.Proofs.Device.Steps
import Coprocessor.Script.Run

/-!
# Actions — everything that can be done to a device

An action is one call to a device on a queue bus, and a run is a list of them,
in any order.

  • `Action.perform` — one call: its answer and the device after it. Only a poll
    loop that still runs after its looks at the flag has neither.
  • `Action.pushed`, `Action.outcomes` — what a call puts behind the waiting
    transactions, and how the transactions that it handles are resolved.
  • `performAll` — the calls of a list, one after the other.
  • `tellsOf_perform` — an answer agrees with the outcomes behind it.

The calls that neither push nor handle leave the bus alone: `bus_dispatch` and
the lemmas after it, down to the commands of a script.
-/

namespace Coprocessor

open Script (ScriptLine ReportLine Command)

/-- One call to a device on a queue bus. -/
inductive Action where
  | push (transaction : Transaction)
  | step
  | runUntilIdle
  | poll (stop : Nat → Queue → Bool) (looks : Nat)
  | script (lines : List ScriptLine)
  | execute (request : Request)
  | executeRaw (number : UInt8) (destination source0 source1 : UInt64)
  | executeSlot (slot : UInt64) (operation : Operation)
  | write32 (index : Nat) (word : UInt32)
  | write64 (index : Nat) (word : UInt64)
  | writeOpcode (slot : Nat) (record : Record)
  | reset
  | snapshot
  | restore (snapshot : Snapshot)

/-- What a call returns. -/
inductive Answer where
  | nothing
  | outcome (outcome : Option Outcome)
  | count (handled : Nat)
  | reports (lines : List ReportLine)
  | operation (result : Except OperationError Unit)
  | slot (result : Except Failure SlotExecution)
  | access (result : Except RangeError Unit)
  | contents (snapshot : Snapshot)
  | restored (result : Except Failure Unit)

namespace Device

variable {β ε : Type}

/-- What a change that may be refused leaves: a refused one keeps the device. -/
def attempt (d : Device β) : Except ε (Device β) → Except ε Unit × Device β
  | .ok changed => (.ok (), changed)
  | .error e => (.error e, d)

/-- A device with a transaction behind those that wait. -/
def push (d : Device Queue) (t : Transaction) : Device Queue := { d with bus := d.bus.push t }

end Device

namespace Action

/-- Carries out one call. -/
def perform : Action → Device Queue → Option (Answer × Device Queue)
  | .push t, d => some (.nothing, d.push t)
  | .step, d => some (d.step.map .outcome id)
  | .runUntilIdle, d => some (d.runUntilIdle.map .count id)
  | .poll stop looks, d => (d.run? stop looks).map (Prod.map .count id)
  | .script lines, d => some ((Script.run lines d).map .reports id)
  | .execute q, d => some ((d.execute q).map .operation id)
  | .executeRaw number destination source0 source1, d =>
      some ((d.executeRaw number destination source0 source1).map .operation id)
  | .executeSlot slot op, d => some ((d.executeSlot slot op).map .slot id)
  | .write32 i word, d => some ((d.attempt (d.write32 i word)).map .access id)
  | .write64 i word, d => some ((d.attempt (d.write64 i word)).map .access id)
  | .writeOpcode slot record, d => some ((d.attempt (d.writeOpcode slot record)).map .access id)
  | .reset, d => some (.nothing, d.reset)
  | .snapshot, d => some (.contents d.snapshot, d)
  | .restore s, d => some ((d.attempt (d.restore s)).map .restored id)

/-- The transaction that a command of a script pushes. -/
def pushedBy : Command → List Transaction
  | .transaction t => [t]
  | _ => []

/-- What a call puts behind the waiting transactions. -/
def pushed : Action → List Transaction
  | .push t => [t]
  | .script lines => lines.flatMap fun l => pushedBy l.command
  | _ => []

/-- How the transactions that a command handles are resolved. -/
def commandOutcomes : Command → Device Queue → List Outcome
  | .transaction t, d => (d.push t).drain.1
  | _, _ => []

/-- How the transactions that a script handles are resolved. -/
def scriptOutcomes : List ScriptLine → Device Queue → List Outcome
  | [], _ => []
  | l :: rest, d => commandOutcomes l.command d ++ scriptOutcomes rest (l.run d).2

/-- How the transactions that a call handles are resolved. -/
def outcomes : Action → Device Queue → List Outcome
  | .step, d => d.step.1.toList
  | .runUntilIdle, d => (d.steps d.runUntilIdle.1).1
  | .poll stop looks, d =>
      match d.run? stop looks with
      | some (handled, _) => (d.steps handled).1
      | none => []
  | .script lines, d => scriptOutcomes lines d
  | _, _ => []

end Action

/-! ## Runs -/

/-- Carries out the calls of a list and returns their answers; `none` when one of
    them is still running. -/
def performAll : List Action → Device Queue → Option (List Answer × Device Queue)
  | [], d => some ([], d)
  | a :: rest, d =>
      match a.perform d with
      | none => none
      | some (answer, next) => (performAll rest next).map (Prod.map (answer :: ·) id)

/-- What a run puts behind the waiting transactions. -/
def allPushed (actions : List Action) : List Transaction := actions.flatMap Action.pushed

/-- How the transactions that a run handles are resolved, call by call. -/
def allOutcomes : List Action → Device Queue → List (List Outcome)
  | [], _ => []
  | a :: rest, d =>
      a.outcomes d :: match a.perform d with
        | some (_, next) => allOutcomes rest next
        | none => []

/-- A run of a first call and others is that call and then a run of the others. -/
theorem performAll_cons {a : Action} {rest : List Action} {d last : Device Queue}
    {answers : List Answer} (h : performAll (a :: rest) d = some (answers, last)) :
    ∃ answer next more, a.perform d = some (answer, next)
      ∧ performAll rest next = some (more, last) ∧ answers = answer :: more := by
  rw [performAll] at h
  cases ha : a.perform d with
  | none =>
      rw [ha] at h
      exact nomatch h
  | some result =>
      obtain ⟨answer, next⟩ := result
      rw [ha] at h
      obtain ⟨⟨more, last'⟩, hmore, heq⟩ := Option.map_eq_some_iff.1 h
      obtain ⟨rfl, rfl⟩ := Prod.mk.inj heq
      exact ⟨answer, next, more, rfl, hmore, rfl⟩

/-- Every call but a poll loop comes to its end. -/
theorem isSome_perform (a : Action) (d : Device Queue)
    (h : ∀ stop looks, a ≠ .poll stop looks) : (a.perform d).isSome := by
  cases a with
  | poll stop looks => exact absurd rfl (h stop looks)
  | push _ | step | runUntilIdle | script _ | execute _ | executeRaw _ _ _ _ | executeSlot _ _
  | write32 _ _ | write64 _ _ | writeOpcode _ _ | reset | snapshot | restore _ => rfl

/-- So does every run of them. -/
theorem isSome_performAll {actions : List Action}
    (h : ∀ stop looks, Action.poll stop looks ∉ actions) (d : Device Queue) :
    (performAll actions d).isSome := by
  induction actions generalizing d with
  | nil => rfl
  | cons a rest ih =>
      have ha : (a.perform d).isSome :=
        isSome_perform a d fun stop looks heq => h stop looks (heq ▸ List.mem_cons_self)
      obtain ⟨⟨answer, next⟩, hperform⟩ := Option.isSome_iff_exists.1 ha
      have hrest : ∀ stop looks, Action.poll stop looks ∉ rest :=
        fun stop looks hmem => h stop looks (List.mem_cons_of_mem a hmem)
      rw [performAll, hperform, Option.isSome_map]
      exact ih hrest next

/-! ## Answers and outcomes -/

/-- The outcome that a report names, if it names one. -/
def Script.Report.outcome? : Script.Report → Option Outcome
  | .bus _ outcome => some outcome
  | _ => none

/-- What an answer says of the outcomes behind it. -/
def Answer.TellsOf : Answer → List Outcome → Prop
  | .outcome o, outcomes => outcomes = o.toList
  | .count n, outcomes => outcomes.length = n
  | .reports lines, outcomes => (lines.filterMap fun l => l.report.outcome?).Sublist outcomes
  | _, outcomes => outcomes = []

/-- As long as transactions wait, every step takes one. -/
theorem length_steps {n : Nat} {d : Device Queue} (h : n ≤ d.bus.pending.length) :
    (d.steps n).1.length = n := by
  rw [Device.steps_fst, Transaction.length_outcomes, List.length_take, Nat.min_eq_left h]

/-- A loop has no room for more than waits. -/
theorem Device.room_le (d : Device Queue) (handled : Nat) :
    d.room handled ≤ d.bus.pending.length := by
  rw [room]
  split
  next => exact Nat.le_refl _
  next => exact Nat.min_le_left _ _

/-- A report of a transaction names the last outcome of its command. -/
theorem sublist_command (c : Command) (d : Device Queue) :
    ((c.run d).1.bind Script.Report.outcome?).toList.Sublist (Action.commandOutcomes c d) := by
  cases c with
  | transaction t =>
      show (((d.push t).drain.1.getLast?.map (.bus t)).bind Script.Report.outcome?).toList.Sublist
        (d.push t).drain.1
      cases hlast : (d.push t).drain.1.getLast? with
      | none => exact List.nil_sublist _
      | some o => exact List.singleton_sublist.2 (List.mem_of_getLast? hlast)
  | opcode slot record =>
      rw [Command.run]
      split
      next => exact List.nil_sublist _
      next => exact List.nil_sublist _
  | execute q => exact List.nil_sublist _
  | executeSlot slot op => exact List.nil_sublist _
  | reset => exact List.nil_sublist _

/-- The outcomes that a script reports are among those of its transactions, in their order.
    -/
theorem sublist_script (lines : List ScriptLine) (d : Device Queue) :
    ((Script.run lines d).1.filterMap fun l => l.report.outcome?).Sublist
      (Action.scriptOutcomes lines d) := by
  induction lines generalizing d with
  | nil => exact List.nil_sublist _
  | cons l rest ih =>
      have hline : ((l.run d).1.toList.filterMap fun l => l.report.outcome?)
          = ((l.command.run d).1.bind Script.Report.outcome?).toList := by
        rw [ScriptLine.run]
        split
        next report d' h =>
          rw [h]
          cases hr : report.outcome? with
          | none => simp [hr]
          | some o => simp [hr]
        next d' h => rw [h]; rfl
      show (((l.run d).1.toList ++ (Script.run rest (l.run d).2).1).filterMap fun l =>
        l.report.outcome?).Sublist _
      rw [List.filterMap_append, hline]
      exact (sublist_command l.command d).append (ih (l.run d).2)

/-- The answer of a call agrees with the outcomes of the call. -/
theorem tellsOf_perform {a : Action} {d last : Device Queue} {answer : Answer}
    (h : a.perform d = some (answer, last)) : answer.TellsOf (a.outcomes d) := by
  cases a with
  | poll stop looks =>
      obtain ⟨⟨n, last'⟩, hrun, heq⟩ := Option.map_eq_some_iff.1 h
      obtain ⟨rfl, -⟩ := Prod.mk.inj heq
      show ((Action.poll stop looks).outcomes d).length = n
      simp only [Action.outcomes, hrun]
      exact length_steps (Device.run?_eq_steps hrun).1
  | runUntilIdle =>
      obtain ⟨rfl, -⟩ := Prod.mk.inj (Option.some.inj h)
      show (d.steps d.runUntilIdle.1).1.length = d.runUntilIdle.1
      rw [Device.runUntilIdle_eq_steps]
      exact length_steps (d.room_le 0)
  | script lines =>
      obtain ⟨rfl, -⟩ := Prod.mk.inj (Option.some.inj h)
      exact sublist_script lines d
  | push _ | step | execute _ | executeRaw _ _ _ _ | executeSlot _ _ | write32 _ _ | write64 _ _
  | writeOpcode _ _ | reset | snapshot | restore _ =>
      obtain ⟨rfl, -⟩ := Prod.mk.inj (Option.some.inj h)
      rfl

/-- So do the answers of a run, call by call. -/
theorem tellsOf_performAll {actions : List Action} {d last : Device Queue}
    {answers : List Answer} (h : performAll actions d = some (answers, last)) :
    answers.length = (allOutcomes actions d).length
      ∧ ∀ p ∈ answers.zip (allOutcomes actions d), p.1.TellsOf p.2 := by
  induction actions generalizing d answers with
  | nil =>
      obtain ⟨rfl, -⟩ := Prod.mk.inj (Option.some.inj h)
      exact ⟨rfl, fun _ hp => nomatch hp⟩
  | cons a rest ih =>
      obtain ⟨answer, next, more, ha, hrest, rfl⟩ := performAll_cons h
      obtain ⟨hlen, htells⟩ := ih hrest
      simp only [allOutcomes, ha]
      refine ⟨congrArg (· + 1) hlen, ?_⟩
      intro p hp
      rcases List.mem_cons.1 hp with rfl | hp
      · exact tellsOf_perform ha
      · exact htells p hp

/-! ## What leaves the bus alone -/

namespace Device

variable {β : Type} (d : Device β)

/-- An operation is not seen on the bus. -/
@[simp] theorem bus_dispatch (q : Request) : (d.dispatch q).2.bus = d.bus := by
  rw [dispatch]
  split
  next => rfl
  next => rfl

@[simp] theorem bus_countOperation (q : Request) (result : Except OperationError Unit) :
    (d.countOperation q result).bus = d.bus := by
  cases result with
  | ok _ => rfl
  | error e => rfl

@[simp] theorem bus_execute (q : Request) : (d.execute q).2.bus = d.bus := by
  show ((d.dispatch q).2.countOperation q (d.dispatch q).1).bus = d.bus
  rw [bus_countOperation, bus_dispatch]

@[simp] theorem bus_executeRaw (number : UInt8) (destination source0 source1 : UInt64) :
    (d.executeRaw number destination source0 source1).2.bus = d.bus := by
  rw [executeRaw]
  split
  next => rfl
  next op => exact d.bus_dispatch _

@[simp] theorem bus_executeSlot (slot : UInt64) (op : Operation) :
    (d.executeSlot slot op).2.bus = d.bus := by
  rw [executeSlot]
  split
  next => rfl
  next record =>
    split
    next q _ => exact d.bus_execute q
    next => rfl

/-- An access that may be refused leaves the bus alone if its change does. -/
theorem bus_attempt_map {α ε : Type} (access : Except ε α) {change : α → Device β}
    (h : ∀ a, (change a).bus = d.bus) : (d.attempt (access.map change)).2.bus = d.bus := by
  cases access with
  | ok a => exact h a
  | error e => rfl

@[simp] theorem bus_restore (s : Snapshot) : (d.attempt (d.restore s)).2.bus = d.bus := by
  rw [restore]
  split
  next => rfl
  next => rfl

end Device

namespace Script

/-- Whether a command goes through the bus. -/
def Command.isBus : Command → Bool
  | .transaction _ => true
  | _ => false

/-- Any other command leaves the bus alone. -/
theorem bus_command {c : Command} (h : c.isBus = false) (d : Device Queue) :
    (c.run d).2.bus = d.bus := by
  cases c with
  | transaction t => exact nomatch h
  | opcode slot record =>
      cases hw : d.opcodes.write slot.toNat record with
      | ok s => simp only [Command.run, Device.writeOpcode, hw]; rfl
      | error e => simp only [Command.run, Device.writeOpcode, hw]; rfl
  | execute q => exact d.bus_execute q
  | executeSlot slot op => exact d.bus_executeSlot slot op
  | reset => rfl

/-- The report of a line is logged, and leaves the bus alone. -/
theorem bus_line (l : ScriptLine) (d : Device Queue) :
    (l.run d).2.bus = (l.command.run d).2.bus := by
  rw [ScriptLine.run]
  split
  next report d' h => rw [h]; rfl
  next d' h => rw [h]

end Script

end Coprocessor
