import Coprocessor.Proofs.Bus.Handshake
import Coprocessor.Proofs.Script.Run

/-!
# Waiting transactions — when a script handles what was pending before it

Only a bus command handles transactions, and it handles everything that waits.
So what was pending before a script is handled right before the transaction of
its first bus command: the commands in front of that one still see the
registers as they were, and a script without a bus command leaves it pending.

  • `Agree` — two runs cannot be told apart by their reports, the storage, the
    counters and what was sent and seen on the bus.
  • `bus_run_quiet` — in front of the first bus command the bus is left alone.
  • `run_drain_loud` — from there on the run is that of a drained device.
  • `agree_drain_iff` — when a script agrees with itself on a drained device.
  • `run_resolves` — these together; `not_agree_sum` is a script that does not.
-/

namespace Coprocessor.Script

/-- Two runs that cannot be told apart but by the log and the bus lines. -/
structure Agree (x y : List ReportLine × Device Queue) : Prop where
  reports : x.1 = y.1
  registers : x.2.registers = y.2.registers
  opcodes : x.2.opcodes = y.2.opcodes
  counters : x.2.counters = y.2.counters
  responses : x.2.bus.responses = y.2.bus.responses
  events : x.2.bus.events = y.2.bus.events

theorem Agree.refl (x : List ReportLine × Device Queue) : Agree x x :=
  ⟨rfl, rfl, rfl, rfl, rfl, rfl⟩

/-- The commands in front of the first bus command. -/
def quiet (lines : List ScriptLine) : List ScriptLine :=
  lines.takeWhile fun l => !l.command.isBus

/-- The first bus command and everything behind it. -/
def loud (lines : List ScriptLine) : List ScriptLine :=
  lines.dropWhile fun l => !l.command.isBus

/-- A script is its commands before the first transaction and the others. -/
theorem quiet_append_loud (lines : List ScriptLine) : quiet lines ++ loud lines = lines :=
  List.takeWhile_append_dropWhile

/-! ## The two parts -/

/-- From the first bus command on, if there is one. -/
theorem loud_cases (lines : List ScriptLine) :
    loud lines = [] ∨ ∃ l rest, loud lines = l :: rest ∧ l.command.isBus = true := by
  induction lines with
  | nil => exact Or.inl rfl
  | cons l rest ih =>
      cases hl : l.command.isBus with
      | true =>
          have hloud : loud (l :: rest) = l :: rest := List.dropWhile_cons_of_neg (by simp [hl])
          exact Or.inr ⟨l, rest, hloud, hl⟩
      | false =>
          have hloud : loud (l :: rest) = loud rest := List.dropWhile_cons_of_pos (by simp [hl])
          rw [hloud]
          exact ih

/-! ## In front of the first bus command -/

/-- Commands that are no transactions leave the bus. -/
theorem bus_run {lines : List ScriptLine} (h : ∀ l ∈ lines, l.command.isBus = false)
    (d : Device Queue) : (run lines d).2.bus = d.bus := by
  induction lines generalizing d with
  | nil => rfl
  | cons l rest ih =>
      obtain ⟨report, hreport, -⟩ := run_line l d
      have hl : l.command.isBus = false := h l List.mem_cons_self
      have hrest : ∀ l ∈ rest, l.command.isBus = false :=
        fun l hmem => h l (List.mem_cons_of_mem _ hmem)
      rw [run_cons hreport, ih hrest, bus_line, bus_command hl]

theorem bus_run_quiet (lines : List ScriptLine) (d : Device Queue) :
    (run (quiet lines) d).2.bus = d.bus := by
  refine bus_run ?_ d
  intro l hmem
  have hnot := List.all_eq_true.1 List.all_takeWhile l hmem
  simpa using hnot

/-- Handling what waits leaves events, if anything waits. -/
theorem pending_of_events_drain {d : Device Queue} (h : d.bus.events = d.drain.2.bus.events) :
    d.bus.pending = [] := by
  cases hp : d.bus.pending with
  | nil => rfl
  | cons t rest =>
      have hevents := (Device.handles_drain d).events
      rw [← h, hp, List.append_nil, Device.drain_of_cons hp, List.zip_cons_cons,
        List.flatMap_cons] at hevents
      exact nomatch List.self_eq_append_right.1 hevents

/-! ## From the first bus command on -/

/-- A bus command handles what waits, so it does not matter whether that was done
    before. -/
theorem run_drain_line {l : ScriptLine} (h : l.command.isBus = true) (d : Device Queue) :
    l.run d.drain.2 = l.run d := by
  cases hc : l.command with
  | transaction t =>
      rw [ScriptLine.run, ScriptLine.run, hc, run_transaction, run_transaction, Device.drain_drain]
  | opcode _ _ | execute _ | executeSlot _ _ | reset =>
      rw [hc] at h
      exact absurd h Bool.false_ne_true

/-- From the first transaction on, it makes no difference whether the queue was drained
    before. -/
theorem run_drain_loud {lines : List ScriptLine} (h : loud lines ≠ []) (d : Device Queue) :
    run (loud lines) d.drain.2 = run (loud lines) d := by
  rcases loud_cases lines with hnone | ⟨l, rest, hloud, hl⟩
  · exact absurd hnone h
  · rw [hloud, run, run, run_drain_line hl]

/-! ## The whole script -/

/-- A run is a run of the quiet commands and then one of the others. -/
theorem run_eq (lines : List ScriptLine) (d : Device Queue) :
    run lines d
      = ((run (quiet lines) d).1 ++ (run (loud lines) (run (quiet lines) d).2).1,
          (run (loud lines) (run (quiet lines) d).2).2) := by
  rw [← run_append, quiet_append_loud]

/-- Two runs of this form agree when their parts do. -/
theorem agree_append {front front' back back' : List ReportLine} {last last' : Device Queue}
    (h : front.length = front'.length) :
    Agree (front ++ back, last) (front' ++ back', last')
      ↔ front = front' ∧ Agree (back, last) (back', last') := by
  constructor
  · intro hagree
    obtain ⟨hfront, hback⟩ := List.append_inj hagree.reports h
    exact ⟨hfront, { hagree with reports := hback }⟩
  · rintro ⟨rfl, hagree⟩
    exact { hagree with reports := congrArg (front ++ ·) hagree.reports }

/-- A script agrees with itself on a drained device exactly when nothing waits,
    or when there is a bus command and the commands in front of it report the
    same and leave the rest the same. -/
theorem agree_drain_iff (lines : List ScriptLine) (d : Device Queue) :
    Agree (run lines d) (run lines d.drain.2)
      ↔ d.bus.pending = []
        ∨ loud lines ≠ []
          ∧ (run (quiet lines) d).1 = (run (quiet lines) d.drain.2).1
          ∧ Agree (run (loud lines) (run (quiet lines) d).2.drain.2)
              (run (loud lines) (run (quiet lines) d.drain.2).2) := by
  by_cases hloud : loud lines = []
  · have hquiet : quiet lines = lines := by
      have happend := quiet_append_loud lines
      rwa [hloud, List.append_nil] at happend
    constructor
    · intro hagree
      -- the events tell that nothing was handled
      have hevents := hagree.events
      rw [← hquiet, bus_run_quiet, bus_run_quiet] at hevents
      exact Or.inl (pending_of_events_drain hevents)
    · rintro (hnone | ⟨hne, -⟩)
      · rw [Device.drain_of_nil hnone]
        exact Agree.refl _
      · exact absurd hloud hne
  · have hlength : (run (quiet lines) d).1.length = (run (quiet lines) d.drain.2).1.length := by
      rw [length_run, length_run]
    rw [run_eq lines d, run_eq lines d.drain.2, agree_append hlength, run_drain_loud hloud]
    constructor
    · rintro ⟨hreports, hagree⟩
      exact Or.inr ⟨hloud, hreports, hagree⟩
    · rintro (hnone | ⟨-, hreports, hagree⟩)
      · rw [Device.drain_of_nil hnone]
        exact ⟨rfl, Agree.refl _⟩
      · exact ⟨hreports, hagree⟩

/-- **Waiting transactions are handled at the first bus command**: the commands in
    front of it leave the bus alone, from there on the run is the one of a drained
    device, and a script that starts with a bus command cannot be told from the
    same script after all that waits; otherwise a script agrees with that exactly
    when nothing waits or the commands in front of its first bus command make no
    difference. -/
theorem run_resolves (lines : List ScriptLine) (d : Device Queue) :
    (run (quiet lines) d).2.bus = d.bus
      ∧ run lines d
          = ((run (quiet lines) d).1 ++ (run (loud lines) (run (quiet lines) d).2).1,
              (run (loud lines) (run (quiet lines) d).2).2)
      ∧ (loud lines ≠ [] →
          run (loud lines) (run (quiet lines) d).2
            = run (loud lines) (run (quiet lines) d).2.drain.2)
      ∧ (lines ≠ [] → quiet lines = [] → run lines d = run lines d.drain.2)
      ∧ (Agree (run lines d) (run lines d.drain.2)
          ↔ d.bus.pending = []
            ∨ loud lines ≠ []
              ∧ (run (quiet lines) d).1 = (run (quiet lines) d.drain.2).1
              ∧ Agree (run (loud lines) (run (quiet lines) d).2.drain.2)
                  (run (loud lines) (run (quiet lines) d.drain.2).2)) := by
  refine ⟨bus_run_quiet lines d, run_eq lines d, ?_, ?_, agree_drain_iff lines d⟩
  · intro h
    exact (run_drain_loud h _).symm
  · intro hne hquiet
    have hloud : loud lines = lines := by
      have happend := quiet_append_loud lines
      rwa [hquiet] at happend
    rw [← hloud] at hne ⊢
    exact (run_drain_loud hne d).symm

/-- Two writes wait, and a script without a bus command adds what they write: it
    adds zeros, and only after the writes are handled it adds 1.5 and 2.5. -/
theorem not_agree_sum :
    let d := Device.withDefaults (Queue.ofList [.write32 0 0x3FC00000, .write32 1 0x40200000])
    let lines : List ScriptLine := [⟨1, .execute ⟨.single .add, 2, 0, 1⟩⟩]
    lines ≠ []
      ∧ (run lines d).2.registers.read32 2 = some 0
      ∧ (run lines d.drain.2).2.registers.read32 2 = some 0x40800000
      ∧ ¬ Agree (run lines d) (run lines d.drain.2) := by
  intro d lines
  have hbefore : (run lines d).2.registers.read32 2 = some 0 := by decide +kernel
  have hafter : (run lines d.drain.2).2.registers.read32 2 = some 0x40800000 := by
    rw [Device.drain_eq_steps]
    decide +kernel
  refine ⟨List.cons_ne_nil _ _, hbefore, hafter, ?_⟩
  intro hagree
  have hsame := congrArg (fun r : Registers => r.read32 2) hagree.registers
  rw [hbefore, hafter] at hsame
  exact absurd hsame (by decide)

end Coprocessor.Script
