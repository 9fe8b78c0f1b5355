import Coprocessor.Proofs.Bus.Handshake
import Coprocessor.Proofs.Device.Drain

/-!
# Schedules — pushes and steps in any order

A producer pushes transactions while a poll loop makes steps, and a schedule says
who is next. A step looks at the front of the queue alone and a push changes its
end alone, so every schedule comes to the same as its batch: push everything
first, and then make as many steps as found a transaction.

  • `Action.IsTurn` — the calls of a schedule.
  • `handle_pushAll` — handling the first transaction does not see the batch that
    stands behind the others.
  • `steps_of_turns` — a schedule is a number of steps of its batch, whatever
    waits in front of the batch.
  • `performAll_take` — a run that is stopped early has returned the first answers.
  • `schedule_eq_batch` — the comparison from an empty queue, and the steps that
    found nothing.
-/

namespace Coprocessor

/-- The calls of a schedule: a producer pushes and a poll loop steps. -/
inductive Action.IsTurn : Action → Prop where
  | push (t : Transaction) : IsTurn (.push t)
  | step : IsTurn .step

/-- The outcome that a step returned, if it found a transaction. -/
def Answer.outcome? : Answer → Option Outcome
  | .outcome o => o
  | _ => none

/-- The outcomes that the steps of a run returned, in order. -/
def returned (answers : List Answer) : List Outcome := answers.filterMap Answer.outcome?

/-- The transaction that was taken from the bus, if that is what happened. -/
def Event.taken? : Event → Option Transaction
  | .polled t => some t
  | _ => none

/-- The transactions that were taken from a bus, by its events. -/
def taken (events : List Event) : List Transaction := events.filterMap Event.taken?

/-- How the first transactions are resolved does not depend on those behind them. -/
theorem Transaction.outcomes_take (r : Registers) (ts : List Transaction) (n : Nat) :
    Transaction.outcomes r (ts.take n) = (Transaction.outcomes r ts).take n := by
  induction ts generalizing r n with
  | nil => rw [List.take_nil]; exact List.take_nil.symm
  | cons t ts ih =>
      cases n with
      | zero => rfl
      | succ n => exact congrArg (t.outcome r :: ·) (ih (t.effect r) n)

/-- A block tells of one taken transaction. -/
theorem taken_block (t : Transaction) (o : Outcome) : taken (t.block o) = [t] := by
  cases h : o.data? with
  | none => simp only [Transaction.block, h]; rfl
  | some data => simp only [Transaction.block, h]; rfl

/-- The blocks of transactions tell which of them were taken. -/
theorem taken_blocks (handled : List (Transaction × Outcome)) :
    taken (handled.flatMap fun p => p.1.block p.2) = handled.map Prod.fst := by
  induction handled with
  | nil => rfl
  | cons p rest ih =>
      have hsplit : taken ((p :: rest).flatMap fun p => p.1.block p.2)
          = taken (p.1.block p.2) ++ taken (rest.flatMap fun p => p.1.block p.2) := by
        rw [List.flatMap_cons]
        exact List.filterMap_append
      rw [hsplit, taken_block, ih]
      rfl

/-- Pairing reaches as many of the first list as there are of the second. -/
theorem map_fst_zip_of_le {α β : Type} {xs : List α} {ys : List β} (h : ys.length ≤ xs.length) :
    (xs.zip ys).map Prod.fst = xs.take ys.length := by
  rw [List.zip_eq_zip_take_min, Nat.min_eq_right h, List.take_length]
  exact List.map_fst_zip (List.length_take_le _ _)

namespace Device

variable {d : Device Queue}

/-! ## A batch behind those that wait -/

/-- A device with a batch of transactions behind those that wait. -/
def pushAll (d : Device Queue) (batch : List Transaction) : Device Queue := batch.foldl push d

/-- A batch waits behind what waited before, in its own order. -/
theorem pending_pushAll (d : Device Queue) (batch : List Transaction) :
    (d.pushAll batch).bus.pending = d.bus.pending ++ batch := by
  induction batch generalizing d with
  | nil => exact (List.append_nil _).symm
  | cons t batch ih =>
      show ((d.push t).pushAll batch).bus.pending = _
      rw [ih, pending_push, List.append_assoc]
      rfl

theorem registers_pushAll (d : Device Queue) (batch : List Transaction) :
    (d.pushAll batch).registers = d.registers := by
  induction batch generalizing d with
  | nil => rfl
  | cons t batch ih => exact ih (d.push t)

theorem events_pushAll (d : Device Queue) (batch : List Transaction) :
    (d.pushAll batch).bus.events = d.bus.events := by
  induction batch generalizing d with
  | nil => rfl
  | cons t batch ih => exact ih (d.push t)

/-- Handling the first transaction and pushing a batch may change places. -/
theorem handle_pushAll (d : Device Queue) (t : Transaction) (rest batch : List Transaction) :
    (d.pushAll batch).handle t (rest ++ batch) = (d.handle t rest).pushAll batch := by
  induction batch generalizing d rest with
  | nil => rw [List.append_nil]; rfl
  | cons u batch ih =>
      have hpush : (d.push u).handle t (rest ++ [u]) = (d.handle t rest).push u :=
        d.handle_push t u rest
      show ((d.push u).pushAll batch).handle t (rest ++ u :: batch)
        = ((d.handle t rest).push u).pushAll batch
      rw [← hpush, ← ih, List.append_assoc]
      rfl

/-! ## Schedules are steps of their batch -/

/-- A step finds nothing exactly if nothing waits. -/
theorem step_eq_none_iff : d.step.1 = none ↔ d.bus.pending = [] := by
  cases hp : d.bus.pending with
  | nil => rw [step_of_nil hp]; exact iff_of_true rfl rfl
  | cons t rest => rw [step_of_cons hp]; exact iff_of_false nofun nofun

/-- A schedule is a number of steps of its batch, one for each outcome that it
    returned. -/
theorem steps_of_turns {actions : List Action} {answers : List Answer} {last : Device Queue}
    (hturns : ∀ a ∈ actions, a.IsTurn) (h : performAll actions d = some (answers, last)) :
    (d.pushAll (allPushed actions)).steps (returned answers).length
      = (returned answers, last) := by
  -- along the schedule, for every queue that it may find
  induction actions generalizing d answers with
  | nil =>
      obtain ⟨rfl, rfl⟩ := Prod.mk.inj (Option.some.inj h)
      rfl
  | cons a rest ih =>
      obtain ⟨answer, next, more, ha, hrest, rfl⟩ := performAll_cons h
      have hmore := ih (fun b hb => hturns b (List.mem_cons_of_mem a hb)) hrest
      cases hturns a List.mem_cons_self with
      | push t =>
          obtain ⟨rfl, rfl⟩ := Prod.mk.inj (Option.some.inj ha)
          exact hmore
      | step =>
          obtain ⟨hanswer, hnext⟩ : Answer.outcome d.step.1 = answer ∧ d.step.2 = next :=
            Prod.mk.inj (Option.some.inj ha)
          subst hanswer hnext
          cases hp : d.bus.pending with
          | nil =>
              rw [step_of_nil hp] at hmore ⊢
              exact hmore
          | cons t waiting =>
              have hbatch : (d.pushAll (allPushed rest)).bus.pending
                  = t :: (waiting ++ allPushed rest) := by
                rw [pending_pushAll, hp]
                rfl
              rw [step_of_cons hp] at hmore ⊢
              show (d.pushAll (allPushed rest)).steps ((returned more).length + 1)
                = (t.outcome d.registers :: returned more, last)
              rw [steps_of_cons hbatch, handle_pushAll, registers_pushAll]
              exact congrArg (Prod.map (t.outcome d.registers :: ·) id) hmore

/-- No schedule returns more outcomes than there are transactions. -/
theorem length_returned_le {actions : List Action} {answers : List Answer} {last : Device Queue}
    (hturns : ∀ a ∈ actions, a.IsTurn) (h : performAll actions d = some (answers, last)) :
    (returned answers).length ≤ (d.bus.pending ++ allPushed actions).length := by
  have hfst := congrArg (fun run => run.1.length) (steps_of_turns hturns h)
  simp only [steps_fst, Transaction.length_outcomes, List.length_take, pending_pushAll] at hfst
  omega

end Device

/-! ## Runs that are stopped early -/

/-- The first calls of a run return its first answers, and the others start where
    the first ones end. -/
theorem performAll_take {actions : List Action} {d last : Device Queue} {answers : List Answer}
    (h : performAll actions d = some (answers, last)) (i : Nat) :
    ∃ middle, performAll (actions.take i) d = some (answers.take i, middle)
      ∧ performAll (actions.drop i) middle = some (answers.drop i, last) := by
  induction i generalizing actions d answers with
  | zero => exact ⟨d, rfl, h⟩
  | succ i ih =>
      cases actions with
      | nil =>
          obtain ⟨rfl, rfl⟩ := Prod.mk.inj (Option.some.inj h)
          exact ⟨d, rfl, rfl⟩
      | cons a rest =>
          obtain ⟨answer, next, more, ha, hrest, rfl⟩ := performAll_cons h
          obtain ⟨middle, hfront, hback⟩ := ih hrest
          refine ⟨middle, ?_, hback⟩
          rw [List.take_succ_cons, List.take_succ_cons, performAll, ha]
          exact congrArg (Option.map (Prod.map (answer :: ·) id)) hfront

/-- The answer of a step in a run is that of a step on the device that the calls
    before it leave. -/
theorem answer_step {actions : List Action} {d last : Device Queue} {answers : List Answer}
    (h : performAll actions d = some (answers, last)) {i : Nat} (hi : actions[i]? = some .step) :
    ∃ middle, performAll (actions.take i) d = some (answers.take i, middle)
      ∧ answers[i]? = some (.outcome middle.step.1) := by
  obtain ⟨middle, hfront, hback⟩ := performAll_take h i
  obtain ⟨hlt, hget⟩ := List.getElem?_eq_some_iff.1 hi
  rw [List.drop_eq_getElem_cons hlt, hget] at hback
  obtain ⟨answer, next, more, ha, -, hanswers⟩ := performAll_cons hback
  obtain ⟨rfl, -⟩ := Prod.mk.inj (Option.some.inj ha)
  refine ⟨middle, hfront, ?_⟩
  rw [← Nat.add_zero i, ← List.getElem?_drop, hanswers]
  rfl

namespace Device

/-- **Scheduling does not matter**: let a producer push `ts` on an empty queue while
    a poll loop makes steps, in any order, and let `k` steps find a transaction.
    They return the first `k` outcomes of the batch in which all of `ts` is pushed
    first; the device is the one that `k` steps of the batch leave; of `ts` the
    first `k` were taken, in order, and the others wait, in order. A step finds
    nothing exactly when as many transactions were handled as were pushed so far. -/
theorem schedule_eq_batch {d : Device Queue} {actions : List Action}
    (hempty : d.bus.pending = []) (hturns : ∀ a ∈ actions, a.IsTurn) :
    ∃ answers last, performAll actions d = some (answers, last)
      ∧ let ts := allPushed actions
        let k := (returned answers).length
        k ≤ ts.length
          ∧ returned answers = (d.pushAll ts).drain.1.take k
          ∧ last = ((d.pushAll ts).steps k).2
          ∧ taken last.bus.events.toList = taken d.bus.events.toList ++ ts.take k
          ∧ last.bus.pending = ts.drop k
          ∧ ∀ i, actions[i]? = some .step →
              (answers[i]? = some (.outcome none)
                ↔ (returned (answers.take i)).length = (allPushed (actions.take i)).length) := by
  have hloops : ∀ stop looks, Action.poll stop looks ∉ actions :=
    fun stop looks hmem => nomatch hturns _ hmem
  obtain ⟨⟨answers, last⟩, hrun⟩ := Option.isSome_iff_exists.1 (isSome_performAll hloops d)
  have hsteps := steps_of_turns hturns hrun
  have hle := length_returned_le hturns hrun
  have hpending : (d.pushAll (allPushed actions)).bus.pending = allPushed actions := by
    rw [pending_pushAll, hempty, List.nil_append]
  rw [hempty, List.nil_append] at hle
  refine ⟨answers, last, hrun, hle, ?_, ?_, ?_, ?_, ?_⟩
  · have hfst := congrArg Prod.fst hsteps
    rw [steps_fst, Transaction.outcomes_take, hpending] at hfst
    rw [drain_eq_steps, steps_fst, List.take_length, hpending]
    exact hfst.symm
  · rw [hsteps]
  · have hevents := (handles_steps (returned answers).length (d.pushAll (allPushed actions))).events
    rw [hsteps, hpending, List.append_nil, events_pushAll] at hevents
    show taken last.bus.events.toList = _
    rw [hevents, taken, List.filterMap_append]
    show _ ++ taken _ = _
    rw [taken_blocks, map_fst_zip_of_le hle]
    rfl
  · have hdrop := pending_steps (returned answers).length (d.pushAll (allPushed actions))
    rw [hsteps, hpending] at hdrop
    exact hdrop
  · intro i hi
    obtain ⟨middle, hfront, hanswer⟩ := answer_step hrun hi
    have hturns' : ∀ a ∈ actions.take i, a.IsTurn := fun a ha => hturns a (List.mem_of_mem_take ha)
    have hle' := length_returned_le hturns' hfront
    rw [hempty, List.nil_append] at hle'
    -- what waits before the step is what was pushed and not yet handled
    have hwaits := pending_steps (returned (answers.take i)).length
      (d.pushAll (allPushed (actions.take i)))
    rw [steps_of_turns hturns' hfront, pending_pushAll, hempty, List.nil_append] at hwaits
    rw [hanswer, Option.some_inj, Answer.outcome.injEq, step_eq_none_iff, hwaits,
      List.drop_eq_nil_iff]
    omega

/-- The first step and the last one come too early, and two transactions are pushed
    too late to be handled. -/
theorem schedule_eq_batch_early :
    let d := withDefaults Queue.empty
    let actions : List Action :=
      [.step, .push (.write32 3 7), .push (.read 3), .step, .push ⟨.read, 3, [1]⟩, .step, .step,
        .step, .push (.read 4), .push (.read 3)]
    d.bus.pending = [] ∧ (∀ a ∈ actions, a.IsTurn)
      ∧ ∃ answers last, performAll actions d = some (answers, last)
        ∧ returned answers = [.written .single 3, .responded 3 [7, 0, 0, 0],
            .dropped (.unsupported .read 1)]
        ∧ last = ((d.pushAll (allPushed actions)).steps 3).2
        ∧ last.bus.pending = [.read 4, .read 3]
        ∧ answers[7]? = some (.outcome none) := by
  intro d actions
  have hempty : d.bus.pending = [] := rfl
  have hturns : ∀ a ∈ actions, a.IsTurn := by
    simp only [actions, List.forall_mem_cons]
    exact ⟨.step, .push _, .push _, .step, .push _, .step, .step, .step, .push _, .push _,
      List.forall_mem_nil _⟩
  obtain ⟨answers, last, hrun, -, -, hlast, -, hpending, hnone⟩ :=
    schedule_eq_batch hempty hturns
  have hreturned : (performAll actions d).map
      (fun run => (returned run.1, (returned (run.1.take 7)).length))
      = some ([.written .single 3, .responded 3 [7, 0, 0, 0], .dropped (.unsupported .read 1)],
          3) := by decide
  rw [hrun] at hreturned
  obtain ⟨houtcomes, hseven⟩ := Prod.mk.inj (Option.some.inj hreturned)
  rw [houtcomes] at hlast hpending
  exact ⟨hempty, hturns, answers, last, hrun, houtcomes, hlast, hpending,
    (hnone 7 rfl).2 hseven⟩

end Device

end Coprocessor
