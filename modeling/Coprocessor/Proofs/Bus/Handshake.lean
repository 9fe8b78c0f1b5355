import Coprocessor.Proofs.Device.Action

/-!
# Handshake — what any run of a device leaves in the event log

Whatever is done to a device, in whatever order: the transactions that were
handled are the first of those that waited or were pushed, each left one block
of events and nothing else left any, and between two calls every line is at
rest.

  • `Handles` — what a call may do to a queue bus: it pushes transactions and
    handles some from the front.
  • `Handles.trans` — two calls of this kind are one.
  • `busyAfter` — the busy line along a log in which a poll happens at rest, an
    answer while busy, and the line changes at every drive.
  • `performAll_handshake` — every run is of this kind, and its log keeps order.
-/

namespace Coprocessor

/-! ## The busy line along a log -/

/-- The busy line after events, if each of them happened at its time. -/
def busyAfter : Bool → List Event → Option Bool
  | level, [] => some level
  | level, .polled _ :: rest => if level then none else busyAfter level rest
  | level, .busy next :: rest => if next = level then none else busyAfter next rest
  | level, .responded _ _ :: rest => if level then busyAfter level rest else none

/-- Events in front are followed first. -/
theorem busyAfter_append {level middle : Bool} {front : List Event}
    (h : busyAfter level front = some middle) (back : List Event) :
    busyAfter level (front ++ back) = busyAfter middle back := by
  induction front generalizing level with
  | nil =>
      obtain rfl := Option.some.inj h
      rfl
  | cons e front ih =>
      cases e with
      | polled t =>
          cases level with
          | true => exact nomatch h
          | false => exact ih h
      | busy next =>
          rw [busyAfter] at h
          by_cases hn : next = level
          · rw [if_pos hn] at h
            exact nomatch h
          · rw [if_neg hn] at h
            show (if next = level then none else busyAfter next (front ++ back)) = _
            rw [if_neg hn]
            exact ih h
      | responded address data =>
          cases level with
          | true => exact ih h
          | false => exact nomatch h

/-- A block starts and ends at rest. -/
theorem busyAfter_block (t : Transaction) (o : Outcome) :
    busyAfter false (t.block o) = some false := by
  cases h : o.data? with
  | none => simp only [Transaction.block, h]; rfl
  | some data => simp only [Transaction.block, h]; rfl

/-- Handled one after the other, transactions leave an idle line. -/
theorem busyAfter_blocks (handled : List (Transaction × Outcome)) :
    busyAfter false (handled.flatMap fun p => p.1.block p.2) = some false := by
  induction handled with
  | nil => rfl
  | cons p rest ih =>
      rw [List.flatMap_cons, busyAfter_append (busyAfter_block p.1 p.2)]
      exact ih

/-! ## Handling from the front -/

/-- Pairing leaves over what it did not reach. -/
theorem zip_append_drop {α β : Type} (xs more : List α) (ys zs : List β)
    (h : ys.length ≤ xs.length) :
    (xs ++ more).zip (ys ++ zs) = xs.zip ys ++ (xs.drop ys.length ++ more).zip zs := by
  induction ys generalizing xs with
  | nil => rw [List.zip_nil_right]; rfl
  | cons y ys ih =>
      cases xs with
      | nil => exact absurd h (Nat.not_succ_le_zero _)
      | cons x xs =>
          show (x, y) :: (xs ++ more).zip (ys ++ zs) = _
          rw [ih xs (Nat.le_of_succ_le_succ h)]
          rfl

namespace Device

open Script (ScriptLine Command)

/-- A call that pushes some transactions and handles the first of those that
    wait, one for each outcome. -/
structure Handles (d : Device Queue) (pushed : List Transaction) (outcomes : List Outcome)
    (last : Device Queue) : Prop where
  enough : outcomes.length ≤ (d.bus.pending ++ pushed).length
  pending : last.bus.pending = (d.bus.pending ++ pushed).drop outcomes.length
  /-- Each transaction that was handled leaves its block. -/
  events : last.bus.events.toList
    = d.bus.events.toList
      ++ ((d.bus.pending ++ pushed).zip outcomes).flatMap fun p => p.1.block p.2
  /-- Each answer is recorded with its transaction. -/
  responses : last.bus.responses.toList
    = d.bus.responses.toList
      ++ ((d.bus.pending ++ pushed).zip outcomes).flatMap fun p => p.1.response p.2
  /-- A read without payload is answered under its address. -/
  reads : ∀ p ∈ (d.bus.pending ++ pushed).zip outcomes, p.1.IsRead →
    ∃ data, p.2 = .responded p.1.address data
  /-- Nothing else is answered. -/
  others : ∀ p ∈ (d.bus.pending ++ pushed).zip outcomes, ¬ p.1.IsRead → p.2.data? = none
  signals : d.bus.signals = .idle → last.bus.signals = .idle

/-- A call that leaves the bus alone pushes and handles nothing. -/
theorem handles_of_bus {d last : Device Queue} (h : last.bus = d.bus) :
    d.Handles [] [] last where
  enough := Nat.zero_le _
  pending := by rw [h, List.append_nil]; rfl
  events := by rw [h, List.zip_nil_right]; exact (List.append_nil _).symm
  responses := by rw [h, List.zip_nil_right]; exact (List.append_nil _).symm
  reads := by rw [List.zip_nil_right]; exact fun _ hp => nomatch hp
  others := by rw [List.zip_nil_right]; exact fun _ hp => nomatch hp
  signals := by rw [h]; exact id

/-- Two calls, one after the other, are one call that does both. -/
theorem Handles.trans {d next last : Device Queue} {pushed pushed' : List Transaction}
    {outcomes outcomes' : List Outcome} (h : d.Handles pushed outcomes next)
    (h' : next.Handles pushed' outcomes' last) :
    d.Handles (pushed ++ pushed') (outcomes ++ outcomes') last := by
  -- the second call starts on what the first one left
  have hrest : next.bus.pending ++ pushed'
      = (d.bus.pending ++ pushed).drop outcomes.length ++ pushed' := by
    rw [h.pending]
  have hlen := congrArg List.length hrest
  rw [List.length_append, List.length_append, List.length_drop] at hlen
  have hle := h'.enough
  have henough := h.enough
  have hzip : (d.bus.pending ++ (pushed ++ pushed')).zip (outcomes ++ outcomes')
      = (d.bus.pending ++ pushed).zip outcomes
        ++ (next.bus.pending ++ pushed').zip outcomes' := by
    rw [← List.append_assoc, zip_append_drop _ _ _ _ henough, hrest]
  constructor
  · rw [← List.append_assoc, List.length_append, List.length_append]
    rw [List.length_append] at hle
    omega
  · rw [h'.pending, hrest, List.length_append, ← List.drop_drop, ← List.append_assoc,
      List.drop_append_of_le_length henough]
  · rw [h'.events, h.events, hzip, List.flatMap_append, List.append_assoc]
  · rw [h'.responses, h.responses, hzip, List.flatMap_append, List.append_assoc]
  · intro p hp
    rw [hzip] at hp
    rcases List.mem_append.1 hp with hp | hp
    · exact h.reads p hp
    · exact h'.reads p hp
  · intro p hp
    rw [hzip] at hp
    rcases List.mem_append.1 hp with hp | hp
    · exact h.others p hp
    · exact h'.others p hp
  · exact fun hidle => h'.signals (h.signals hidle)

/-- A push only adds to what waits. -/
theorem handles_push (d : Device Queue) (t : Transaction) : d.Handles [t] [] (d.push t) where
  enough := Nat.zero_le _
  pending := rfl
  events := by rw [List.zip_nil_right]; exact (List.append_nil _).symm
  responses := by rw [List.zip_nil_right]; exact (List.append_nil _).symm
  reads := by rw [List.zip_nil_right]; exact fun _ hp => nomatch hp
  others := by rw [List.zip_nil_right]; exact fun _ hp => nomatch hp
  signals := id

/-- Handling one transaction pushes nothing and leaves its block. -/
theorem handles_handle {d : Device Queue} {t : Transaction} {rest : List Transaction}
    (h : d.bus.pending = t :: rest) :
    d.Handles [] [t.outcome d.registers] (d.handle t rest) := by
  have hzip : (d.bus.pending ++ []).zip [t.outcome d.registers] = [(t, t.outcome d.registers)] := by
    rw [h, List.append_nil, List.zip_cons_cons, List.zip_nil_right]
  constructor
  · rw [h, List.append_nil]
    exact Nat.succ_le_succ (Nat.zero_le _)
  · rw [pending_handle, h, List.append_nil]
    rfl
  · rw [events_handle, hzip, List.flatMap_singleton]
  · rw [responses_handle, hzip, List.flatMap_singleton]
  · intro p hp
    rw [hzip] at hp
    obtain rfl := List.mem_singleton.1 hp
    exact fun hread => ⟨_, Transaction.outcome_of_isRead hread d.registers⟩
  · intro p hp
    rw [hzip] at hp
    obtain rfl := List.mem_singleton.1 hp
    exact fun hread => Transaction.data?_outcome_of_not_isRead hread d.registers
  · exact fun _ => signals_handle

/-! ## Loops and scripts -/

/-- Steps handle transactions from the front, as many as there are steps or transactions. -/
theorem handles_steps (n : Nat) (d : Device Queue) :
    d.Handles [] (d.steps n).1 (d.steps n).2 := by
  induction n generalizing d with
  | zero => exact handles_of_bus rfl
  | succ n ih =>
      cases h : d.bus.pending with
      | nil => rw [steps_of_nil h]; exact handles_of_bus rfl
      | cons t rest =>
          rw [steps_of_cons h]
          exact (handles_handle h).trans (ih (d.handle t rest))

theorem handles_step (d : Device Queue) : d.Handles [] d.step.1.toList d.step.2 := by
  cases h : d.bus.pending with
  | nil => rw [step_of_nil h]; exact handles_of_bus rfl
  | cons t rest => rw [step_of_cons h]; exact handles_handle h

theorem handles_drain (d : Device Queue) : d.Handles [] d.drain.1 d.drain.2 := by
  rw [drain_eq_steps]
  exact d.handles_steps _

/-- A run until idle handles what its budget allows. -/
theorem handles_runUntilIdle (d : Device Queue) :
    d.Handles [] (d.steps d.runUntilIdle.1).1 d.runUntilIdle.2 := by
  rw [runUntilIdle_eq_steps]
  exact d.handles_steps _

/-- A poll loop that returns handled as many transactions as it says. -/
theorem handles_run? {stop : Nat → Queue → Bool} {looks n : Nat} {d last : Device Queue}
    (h : d.run? stop looks = some (n, last)) : d.Handles [] (d.steps n).1 last := by
  obtain ⟨-, rfl⟩ := run?_eq_steps h
  have hstart : d.Handles [] [] (d.note (.loopStarted d.config)) := handles_of_bus rfl
  have hsteps := hstart.trans (handles_steps n (d.note (.loopStarted d.config)))
  -- the entries of the loop do not change how anything is resolved
  have hfst : ((d.note (.loopStarted d.config)).steps n).1 = (d.steps n).1 := by
    rw [steps_fst, steps_fst]
    rfl
  rw [hfst] at hsteps
  have hstop := hsteps.trans (handles_of_bus (bus_note _ (.loopStopped n)))
  simpa only [List.nil_append, List.append_nil] using hstop

/-- A transaction of a script is pushed and the queue drained; other commands leave the bus.
    -/
theorem handles_command (c : Command) (d : Device Queue) :
    d.Handles (Action.pushedBy c) (Action.commandOutcomes c d) (c.run d).2 := by
  cases c with
  | transaction t => exact (d.handles_push t).trans (handles_drain (d.push t))
  | opcode _ _ | execute _ | executeSlot _ _ | reset =>
      exact handles_of_bus (Script.bus_command rfl d)

theorem handles_line (l : ScriptLine) (d : Device Queue) :
    d.Handles (Action.pushedBy l.command) (Action.commandOutcomes l.command d) (l.run d).2 := by
  have hline :=
    (handles_command l.command d).trans (handles_of_bus (Script.bus_line l d))
  simpa only [List.append_nil] using hline

/-- A script hands its transactions over one command at a time. -/
theorem handles_script (lines : List ScriptLine) (d : Device Queue) :
    d.Handles (Action.script lines).pushed (Action.scriptOutcomes lines d)
      (Script.run lines d).2 := by
  induction lines generalizing d with
  | nil => exact handles_of_bus rfl
  | cons l rest ih => exact (handles_line l d).trans (ih (l.run d).2)

/-! ## Runs -/

/-- Every call handles transactions from the front and adds behind them. -/
theorem handles_perform {a : Action} {d last : Device Queue} {answer : Answer}
    (h : a.perform d = some (answer, last)) : d.Handles a.pushed (a.outcomes d) last := by
  cases a with
  | poll stop looks =>
      obtain ⟨⟨n, last'⟩, hrun, heq⟩ := Option.map_eq_some_iff.1 h
      obtain ⟨-, rfl⟩ := Prod.mk.inj heq
      have hout : (Action.poll stop looks).outcomes d = (d.steps n).1 := by
        simp only [Action.outcomes, hrun]
      rw [hout]
      exact handles_run? hrun
  | push t =>
      obtain ⟨-, rfl⟩ := Prod.mk.inj (Option.some.inj h)
      exact d.handles_push t
  | step =>
      obtain ⟨-, rfl⟩ := Prod.mk.inj (Option.some.inj h)
      exact d.handles_step
  | runUntilIdle =>
      obtain ⟨-, rfl⟩ := Prod.mk.inj (Option.some.inj h)
      exact d.handles_runUntilIdle
  | script lines =>
      obtain ⟨-, rfl⟩ := Prod.mk.inj (Option.some.inj h)
      exact handles_script lines d
  -- the calls from here on leave the bus alone
  | execute q =>
      obtain ⟨-, rfl⟩ := Prod.mk.inj (Option.some.inj h)
      exact handles_of_bus (d.bus_execute q)
  | executeRaw number destination source0 source1 =>
      obtain ⟨-, rfl⟩ := Prod.mk.inj (Option.some.inj h)
      exact handles_of_bus (d.bus_executeRaw number destination source0 source1)
  | executeSlot slot op =>
      obtain ⟨-, rfl⟩ := Prod.mk.inj (Option.some.inj h)
      exact handles_of_bus (d.bus_executeSlot slot op)
  | write32 _ _ | write64 _ _ | writeOpcode _ _ =>
      obtain ⟨-, rfl⟩ := Prod.mk.inj (Option.some.inj h)
      exact handles_of_bus (d.bus_attempt_map _ fun _ => rfl)
  | reset | snapshot =>
      obtain ⟨-, rfl⟩ := Prod.mk.inj (Option.some.inj h)
      exact handles_of_bus rfl
  | restore s =>
      obtain ⟨-, rfl⟩ := Prod.mk.inj (Option.some.inj h)
      exact handles_of_bus (d.bus_restore s)

/-- Calls put together handle what they handle one by one. -/
theorem handles_performAll {actions : List Action} {d last : Device Queue}
    {answers : List Answer} (h : performAll actions d = some (answers, last)) :
    d.Handles (allPushed actions) (allOutcomes actions d).flatten last := by
  induction actions generalizing d answers with
  | nil =>
      obtain ⟨-, rfl⟩ := Prod.mk.inj (Option.some.inj h)
      exact handles_of_bus rfl
  | cons a rest ih =>
      obtain ⟨answer, next, more, ha, hrest, -⟩ := performAll_cons h
      have hout : allOutcomes (a :: rest) d = a.outcomes d :: allOutcomes rest next := by
        rw [allOutcomes, ha]
      rw [hout, List.flatten_cons]
      exact (handles_perform ha).trans (ih hrest)

/-- **The handshake**: from a bus at rest, any run of calls leaves one block of
    events for each transaction that it handled, in the order of the queue, and
    no other events; the answers of the calls agree with the outcomes in the
    blocks. Polls happen at rest, answers while busy, every line is at rest after
    the run, and a run without poll loops always comes to its end. -/
theorem performAll_handshake (actions : List Action) (d : Device Queue)
    (hidle : d.bus.signals = .idle) :
    (∀ answers last, performAll actions d = some (answers, last) →
        d.Handles (allPushed actions) (allOutcomes actions d).flatten last
          ∧ (answers.length = (allOutcomes actions d).length
            ∧ ∀ p ∈ answers.zip (allOutcomes actions d), p.1.TellsOf p.2)
          ∧ last.bus.signals = .idle
          ∧ ∃ events, last.bus.events.toList = d.bus.events.toList ++ events
            ∧ busyAfter false events = some false)
      ∧ ((∀ stop looks, Action.poll stop looks ∉ actions) → (performAll actions d).isSome) := by
  constructor
  · intro answers last h
    have hall := handles_performAll h
    exact ⟨hall, tellsOf_performAll h, hall.signals hidle, _, hall.events, busyAfter_blocks _⟩
  · exact fun hpoll => isSome_performAll hpoll d

/-- A read is pushed behind a write of three bytes; one step, a poll loop of four
    looks and calls that fail. -/
theorem performAll_handshake_mixed :
    let d := withDefaults (Queue.ofList [⟨.write, 3, [1, 2, 3]⟩])
    let actions : List Action :=
      [.push (.read 3), .step, .writeOpcode 5000 .cleared, .poll (fun seen _ => seen = 3) 4,
        .restore ⟨[], [], []⟩, .executeSlot 7 (.single .add)]
    ∃ answers last, performAll actions d = some (answers, last)
      ∧ last.bus.signals = .idle
      ∧ last.bus.events.toList
          = [.polled ⟨.write, 3, [1, 2, 3]⟩, .busy true, .busy false,
              .polled (.read 3), .busy true, .responded 3 [0, 0, 0, 0], .busy false] := by
  intro d actions
  obtain ⟨hrun, -⟩ := performAll_handshake actions d rfl
  obtain ⟨⟨answers, last⟩, hlast⟩ : ∃ result, performAll actions d = some result :=
    Option.isSome_iff_exists.1 rfl
  obtain ⟨hall, -, hsignals, -⟩ := hrun answers last hlast
  exact ⟨answers, last, hlast, hsignals, hall.events.trans (by decide)⟩

end Device

end Coprocessor
