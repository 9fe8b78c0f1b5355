import Coprocessor.Proofs.Bus.Handshake
import Coprocessor.Proofs.Script.Twins

/-!
# Resets — a script starts afresh behind a reset

A reset clears storage and counters and leaves the bus and the configuration. So
behind a reset, where nothing waits, a device differs from a new one in nothing
but the record of its bus and its log, and no command looks at these.

  • `Likeness.siblings`, `total_siblings` — devices that differ in no more than
    that.
  • `siblings_reset` — a device that was reset is a sibling of a new one.
  • `appends_congr` — siblings add the same to the records of their buses.
  • `reset_is_barrier` — a script cut at a reset.
-/

namespace Coprocessor

namespace Likeness

/-- The storage, the transactions that wait, the counters and the configuration. -/
def siblings : Likeness where
  registers := Eq
  config := Eq
  counters := Eq
  bus p q := p.pending = q.pending
  seen := id

/-- Siblings share their registers, and every outcome shows the same on both. -/
theorem total_siblings : siblings.Total where
  refl _ := rfl
  effect h t := congrArg t.effect h
  outcome h t := congrArg t.outcome h
  execute := by
    rintro r _ rfl q
    exact Alike.refl (fun _ => rfl) _
  write32 := by
    rintro r _ rfl i word
    exact Alike.refl (fun _ => rfl) _
  write64 := by
    rintro r _ rfl i word
    exact Alike.refl (fun _ => rfl) _
  budget h := congrArg Config.budget h
  zero := rfl
  resolved := by
    rintro c _ f _ o _ rfl rfl ho
    exact congrArg (c.resolved f.strict) ho
  operated := by
    rintro c _ rfl result
    rfl
  pending h := h
  push h t := congrArg (· ++ [t]) h
  handled _ _ t rest := by
    show (Device.handledBus _ t rest _).pending = (Device.handledBus _ t rest _).pending
    rw [Device.pending_handledBus, Device.pending_handledBus]
  same h := h
  whole := rfl

end Likeness

namespace Script

open Device Likeness

/-- On devices that are alike a script sends the same answers and causes the same events. -/
theorem appends_congr {l : Likeness} (total : l.Total) {d e : Device Queue} (h : l.Relates d e)
    (lines : List ScriptLine) :
    ∃ answers events,
      (run lines d).2.bus.responses.toList = d.bus.responses.toList ++ answers
        ∧ (run lines e).2.bus.responses.toList = e.bus.responses.toList ++ answers
        ∧ (run lines d).2.bus.events.toList = d.bus.events.toList ++ events
        ∧ (run lines e).2.bus.events.toList = e.bus.events.toList ++ events := by
  have hd := handles_script lines d
  have he := handles_script lines e
  -- the same transactions wait or are pushed, and their outcomes are the same
  rw [scriptOutcomes_congr total h] at hd
  have hpending : d.bus.pending = e.bus.pending := total.pending h.bus
  have hresponses := hd.responses
  have hevents := hd.events
  rw [hpending] at hresponses hevents
  exact ⟨_, _, hresponses, he.responses, hevents, he.events⟩

/-- What a script sends and causes is recorded behind all that was there before. -/
theorem prefix_run (lines : List ScriptLine) (d : Device Queue) :
    d.bus.responses.toList <+: (run lines d).2.bus.responses.toList
      ∧ d.bus.events.toList <+: (run lines d).2.bus.events.toList := by
  have hd := handles_script lines d
  exact ⟨⟨_, hd.responses.symm⟩, ⟨_, hd.events.symm⟩⟩

/-! ## A reset -/

/-- The device behind the line of a reset. -/
def afterReset (d : Device Queue) (line : Nat) : Device Queue :=
  (ScriptLine.run ⟨line, .reset⟩ d).2

/-- Where nothing waits, a device that was reset is a sibling of a new one. -/
theorem siblings_reset {d : Device Queue} (h : d.bus.pending = []) (line : Nat) :
    siblings.Relates (afterReset d line) (start Queue.empty d.config) :=
  ⟨rfl, rfl, rfl, rfl, h⟩

theorem create_of_check {bus : Queue} {config : Config} (h : config.check = .ok ()) :
    create bus config = .ok (start bus config) := by
  rw [create, h]
  rfl

/-- A script with a reset in it reports its first part, the reset and then its second part. -/
theorem run_reset (front back : List ScriptLine) (line : Nat) (d : Device Queue) :
    run (front ++ ⟨line, .reset⟩ :: back) d
      = ((run front d).1 ++ ⟨line, .reset⟩ :: (run back (afterReset (run front d).2 line)).1,
          (run back (afterReset (run front d).2 line)).2) := by
  rw [run_append]
  rfl

/-- **A reset is a barrier**: whatever a device is on which nothing waits, and whatever
    stands before a reset, a script behind the reset gives the reports that it gives on a
    new device with the same configuration and an empty bus, adds the same answers and
    the same events to the record of the bus, and leaves the same storage and the same
    counters. What the bus recorded before the reset, and before the whole script, is
    still there in front. -/
theorem reset_is_barrier (d : Device Queue) (hpending : d.bus.pending = [])
    (haccepted : d.config.check = .ok ()) (front back : List ScriptLine) (line : Nat) :
    let before := run front d
    let after := run (front ++ ⟨line, .reset⟩ :: back) d
    ∃ fresh, create Queue.empty d.config = .ok fresh
      ∧ before.2.bus.pending = []
      ∧ after.1 = before.1 ++ ⟨line, .reset⟩ :: (run back fresh).1
      ∧ after.2.storage = (run back fresh).2.storage
      ∧ after.2.counters = (run back fresh).2.counters
      ∧ after.2.bus.responses.toList
          = before.2.bus.responses.toList ++ (run back fresh).2.bus.responses.toList
      ∧ after.2.bus.events.toList
          = before.2.bus.events.toList ++ (run back fresh).2.bus.events.toList
      ∧ d.bus.responses.toList <+: before.2.bus.responses.toList
      ∧ d.bus.events.toList <+: before.2.bus.events.toList := by
  intro before after
  have hbefore : before.2.bus.pending = [] := pending_run hpending front
  have hconfig : before.2.config = d.config := config_run front d
  have hsiblings := siblings_reset hbefore line
  rw [hconfig] at hsiblings
  obtain ⟨hreports, hlast⟩ := alike_run total_siblings hsiblings back
  -- the record of a new bus is empty, so all that it ends with was added
  obtain ⟨answers, events, hanswers, hanswers', hevents, hevents'⟩ :=
    appends_congr total_siblings hsiblings back
  have hafter : after = _ := run_reset front back line d
  refine ⟨start Queue.empty d.config, create_of_check haccepted, hbefore, ?_, ?_, ?_, ?_, ?_,
    (prefix_run front d).1, (prefix_run front d).2⟩
  · rw [hafter, hreports]
  · rw [hafter]
    exact total_siblings.storage hlast
  · rw [hafter]
    exact hlast.counters
  · rw [hafter, hanswers']
    exact hanswers
  · rw [hafter, hevents']
    exact hevents

/-- A device with a past, a word and a record of kind `nop` with operands in front of the
    reset, and a read of the word behind it: it reads zero, and only the read is counted. -/
theorem reset_is_barrier_past :
    let d : Device Queue :=
      { start ⟨[], ⟨[(.read 9, [1])]⟩, .idle, .empty⟩ { budget := some 2 } with
        counters := { polled := 7, violations := 2 } }
    let front : List ScriptLine :=
      [⟨1, .transaction (.write32 3 0x40000000)⟩, ⟨2, .opcode 5 ⟨.nop, 1, 2, 3⟩⟩]
    let back : List ScriptLine := [⟨6, .transaction (.read 3)⟩]
    let after := run (front ++ ⟨4, .reset⟩ :: back) d
    after.2.counters = { polled := 1, responded := 1 }
      ∧ after.2.opcodes.read 5 = some .cleared
      ∧ after.2.bus.responses.toList = [(.read 9, [1]), (.read 3, [0, 0, 0, 0])] := by
  intro d front back after
  have hshort : ¬ Interval.second.toNanos < Interval.millisecond.toNanos := by decide
  obtain ⟨fresh, hfresh, -, -, hstorage, hcounters, hresponses, -⟩ :=
    reset_is_barrier d rfl (if_neg hshort) front back 4
  obtain ⟨-, rfl⟩ := eq_start_of_create hfresh
  refine ⟨hcounters.trans (by decide +kernel), ?_, hresponses.trans (by decide +kernel)⟩
  show after.2.storage.opcodes.read 5 = _
  rw [hstorage]
  decide +kernel

end Script

end Coprocessor
