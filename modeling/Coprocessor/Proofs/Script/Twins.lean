import Coprocessor.Proofs.Device.Likeness
import Coprocessor.Proofs.Script.Joining
import Coprocessor.Proofs.Script.Run

/-!
# Twins — what a run depends on

What a call answers and what it leaves in storage depends on the storage, on the
transactions that wait and on the budget alone: not on the counters, not on what
was sent before and not on whether the protocol is strict. A script depends on
the numbers of its lines in no other way than that its reports carry them.

  • `Likeness.Total` — a likeness that lets nothing out: the registers are the same
    and all of an outcome is seen. `twins` is one.
  • `config_run`, `pending_run` — a script keeps the configuration and leaves
    nothing waiting.
  • `alike_script` — on devices that are alike in all that is seen, a script some
    lines further down gives the same reports some lines further down.
  • `Action.IsBlind`, `keeps_of_isBlind` — no call whatever can tell twins apart,
    as long as the flag of a poll loop looks at nothing but what waits.
-/

namespace Coprocessor

namespace Likeness

/-- A likeness of devices with the same registers, with all of an outcome in sight. -/
structure Total (l : Likeness) : Prop extends l.Lawful where
  same : ∀ {r s}, l.registers r s → r = s
  whole : l.seen = id

/-- The storage, the transactions that wait and the budget. -/
def twins : Likeness where
  registers := Eq
  config f g := f.budget = g.budget
  counters _ _ := True
  bus p q := p.pending = q.pending
  seen := id

/-- Twins share their registers, and every outcome shows the same on both. -/
theorem total_twins : twins.Total where
  refl _ := rfl
  effect h t := congrArg t.effect h
  outcome h t := congrArg t.outcome h
  execute := by
    rintro r _ rfl q
    exact Alike.refl (fun _ => rfl) _
  write32 := by
    rintro r _ rfl i word
    exact Alike.refl (fun _ => rfl) _
  write64 := by
    rintro r _ rfl i word
    exact Alike.refl (fun _ => rfl) _
  budget h := h
  zero := trivial
  resolved _ _ _ := trivial
  operated _ _ := trivial
  pending h := h
  push h t := congrArg (· ++ [t]) h
  handled _ _ t rest := by
    show (Device.handledBus _ t rest _).pending = (Device.handledBus _ t rest _).pending
    rw [Device.pending_handledBus, Device.pending_handledBus]
  same h := h
  whole := rfl

theorem Total.storage {l : Likeness} (total : l.Total) {d e : Device Queue}
    (h : l.Relates d e) : d.storage = e.storage := by
  have hregisters : d.storage.registers = e.storage.registers := total.same h.registers
  have hopcodes : d.storage.opcodes = e.storage.opcodes := h.opcodes
  cases hd : d.storage with
  | mk registers opcodes =>
      rw [hd] at hregisters hopcodes
      obtain rfl : registers = e.storage.registers := hregisters
      obtain rfl : opcodes = e.storage.opcodes := hopcodes
      rfl

/-- Twins have the same storage. -/
theorem Relates.storage {d e : Device Queue} (h : twins.Relates d e) : d.storage = e.storage :=
  total_twins.storage h

end Likeness

namespace Script

open Device Likeness

/-! ## What a script leaves alone -/

/-- No command changes the configuration. -/
theorem config_command (c : Command) (d : Device Queue) : (c.run d).2.config = d.config := by
  cases c with
  | transaction t =>
      rw [run_transaction]
      show (d.drain.2.handle t []).config = d.config
      rw [config_handle, drain_eq_steps, config_steps]
  | opcode slot record =>
      rw [Command.run, writeOpcode]
      cases d.opcodes.write slot.toNat record with
      | ok written => rfl
      | error e => rfl
  | execute q => exact (d.counters_execute q).2
  | executeSlot slot op => exact (d.counters_executeSlot slot op).2
  | reset => rfl

/-- With nothing waiting before a command, nothing waits behind it. -/
theorem pending_command {d : Device Queue} (h : d.bus.pending = []) (c : Command) :
    (c.run d).2.bus.pending = [] := by
  cases c with
  | transaction t =>
      rw [run_transaction]
      exact pending_handle
  | opcode _ _ | execute _ | executeSlot _ _ | reset => rw [bus_command rfl d, h]

theorem config_line (l : ScriptLine) (d : Device Queue) : (l.run d).2.config = d.config := by
  have hcommand := config_command l.command d
  rw [ScriptLine.run]
  split
  next report d' h =>
    rw [h] at hcommand
    exact hcommand
  next d' h =>
    rw [h] at hcommand
    exact hcommand

/-- No script changes the configuration. -/
theorem config_run (lines : List ScriptLine) (d : Device Queue) :
    (run lines d).2.config = d.config := by
  induction lines generalizing d with
  | nil => rfl
  | cons l rest ih => exact (ih (l.run d).2).trans (config_line l d)

/-- Where nothing waits before a script, nothing waits behind it. -/
theorem pending_run {d : Device Queue} (h : d.bus.pending = []) (lines : List ScriptLine) :
    (run lines d).2.bus.pending = [] := by
  induction lines generalizing d with
  | nil => exact h
  | cons l rest ih =>
      have hnext : (l.run d).2.bus.pending = [] := by
        rw [bus_line]
        exact pending_command h l.command
      exact ih hnext

/-! ## Scripts on devices that are alike -/

/-- A report some lines further down. -/
def ReportLine.shift (k : Nat) (r : ReportLine) : ReportLine := { r with line := r.line + k }

section

variable {l : Likeness} (total : l.Total) {d e : Device Queue}

include total

/-- The same transactions are handled with the same outcomes. -/
theorem drain_push_congr (h : l.Relates d e) (t : Transaction) :
    (d.push t).drain.1 = (e.push t).drain.1
      ∧ l.Relates (d.push t).drain.2 (e.push t).drain.2 := by
  obtain ⟨houtcomes, hnext⟩ := alike_drain total.toLawful (alike_push total.toLawful h t)
  have hseen : List.map l.seen = id := by rw [total.whole, List.map_id_fun]
  rw [hseen] at houtcomes
  exact ⟨houtcomes, hnext⟩

/-- A command reports the same on both sides and keeps devices alike. -/
theorem alike_command (h : l.Relates d e) (c : Command) :
    (c.run d).1 = (c.run e).1 ∧ l.Relates (c.run d).2 (c.run e).2 := by
  cases c with
  | transaction t =>
      obtain ⟨houtcomes, hnext⟩ := drain_push_congr total h t
      exact ⟨congrArg (fun outcomes => outcomes.getLast?.map (Report.bus t)) houtcomes, hnext⟩
  | opcode slot record =>
      have hslots : d.opcodes = e.opcodes := h.opcodes
      rw [Command.run, Command.run, writeOpcode, writeOpcode, hslots]
      cases e.opcodes.write slot.toNat record with
      | ok written => exact ⟨rfl, h.registers, rfl, h.config, h.counters, h.bus⟩
      | error x => exact ⟨rfl, h⟩
  | execute q =>
      obtain ⟨hresult, hnext⟩ := alike_execute total.toLawful h q
      have hregisters : (d.execute q).2.registers = (e.execute q).2.registers :=
        total.same hnext.registers
      refine ⟨?_, hnext⟩
      rw [Command.run, Command.run]
      dsimp only
      rw [hresult, hregisters]
  | executeSlot slot op =>
      obtain ⟨hresult, hnext⟩ := alike_executeSlot total.toLawful h slot op
      exact ⟨congrArg (fun result => some (Report.slot slot op result)) hresult, hnext⟩
  | reset => exact ⟨rfl, alike_reset total.toLawful h⟩

/-- A line that is moved down reports the same under its new number. -/
theorem alike_line (h : l.Relates d e) (k : Nat) (line : ScriptLine) :
    ((line.shift k).run d).1 = (line.run e).1.map (ReportLine.shift k)
      ∧ l.Relates ((line.shift k).run d).2 (line.run e).2 := by
  obtain ⟨hreport, hnext⟩ := alike_command total h line.command
  have hcommand : (line.shift k).command.run d = line.command.run d := rfl
  rw [ScriptLine.run, ScriptLine.run, hcommand]
  generalize line.command.run d = x at hreport hnext ⊢
  generalize line.command.run e = y at hreport hnext ⊢
  obtain ⟨report, d'⟩ := x
  obtain ⟨report', e'⟩ := y
  obtain rfl : report = report' := hreport
  cases report with
  | none => exact ⟨rfl, hnext⟩
  | some report => exact ⟨rfl, alike_note hnext _ _⟩

/-- A script some lines further down gives the same reports some lines further down. -/
theorem alike_script (h : l.Relates d e) (k : Nat) (lines : List ScriptLine) :
    (run (lines.map (ScriptLine.shift k)) d).1 = (run lines e).1.map (ReportLine.shift k)
      ∧ l.Relates (run (lines.map (ScriptLine.shift k)) d).2 (run lines e).2 := by
  induction lines generalizing d e with
  | nil => exact ⟨rfl, h⟩
  | cons line rest ih =>
      obtain ⟨hfirst, hnext⟩ := alike_line total h k line
      obtain ⟨hmore, hlast⟩ := ih hnext
      refine ⟨?_, hlast⟩
      show ((line.shift k).run d).1.toList
          ++ (run (rest.map (ScriptLine.shift k)) ((line.shift k).run d).2).1
        = ((line.run e).1.toList ++ (run rest (line.run e).2).1).map (ReportLine.shift k)
      rw [hfirst, hmore, List.map_append, Option.toList_map]

/-- A script gives the same reports, and leaves devices that are alike. -/
theorem alike_run (h : l.Relates d e) (lines : List ScriptLine) :
    (run lines d).1 = (run lines e).1 ∧ l.Relates (run lines d).2 (run lines e).2 := by
  have hshift := alike_script total h 0 lines
  have hlines : lines.map (ScriptLine.shift 0) = lines := List.map_id _
  have hreports : (run lines e).1.map (ReportLine.shift 0) = (run lines e).1 := List.map_id _
  rwa [hlines, hreports] at hshift

/-- The outcomes of a script are the same on both sides. -/
theorem scriptOutcomes_congr (h : l.Relates d e) (lines : List ScriptLine) :
    Action.scriptOutcomes lines d = Action.scriptOutcomes lines e := by
  induction lines generalizing d e with
  | nil => rfl
  | cons line rest ih =>
      have hfirst : Action.commandOutcomes line.command d
          = Action.commandOutcomes line.command e := by
        cases line.command with
        | transaction t => exact (drain_push_congr total h t).1
        | opcode _ _ | execute _ | executeSlot _ _ | reset => rfl
      have hnext : l.Relates (line.run d).2 (line.run e).2 := (alike_line total h 0 line).2
      show Action.commandOutcomes line.command d ++ Action.scriptOutcomes rest (line.run d).2 = _
      rw [hfirst, ih hnext]
      rfl

end

end Script

/-! ## Calls on twins -/

open Device Likeness

/-- Whether a call looks at nothing that twins may differ in: the flag of a poll loop
    depends on the number of looks and on what waits alone. -/
def Action.IsBlind : Action → Prop
  | .poll stop _ => ∀ seen p q, p.pending = q.pending → stop seen p = stop seen q
  | _ => True

/-- No such call can tell twins apart. -/
theorem keeps_of_isBlind {a : Action} (h : a.IsBlind) : twins.Keeps a := by
  intro d e hde
  cases a with
  | poll stop looks =>
      have hrun := alike_run? total_twins.toLawful (fun seen p q hpq => h seen p q hpq) hde looks
      simp only [Same, Action.perform, Action.outcomes]
      generalize d.run? stop looks = x at hrun ⊢
      generalize e.run? stop looks = y at hrun ⊢
      cases hrun with
      | none => exact ⟨.none, rfl⟩
      | @some x y hxy =>
          obtain ⟨handled, d'⟩ := x
          obtain ⟨handled', e'⟩ := y
          obtain ⟨rfl, hlast⟩ := hxy
          exact ⟨.some ⟨rfl, hlast⟩, (alike_steps total_twins.toLawful hde handled).1⟩
  | script lines =>
      refine ⟨same_of_eq (Script.alike_run total_twins hde lines), ?_⟩
      exact congrArg (List.map twins.seen) (Script.scriptOutcomes_congr total_twins hde lines)
  | snapshot =>
      have hcontents : d.snapshot = e.snapshot := congrArg Snapshot.ofStorage hde.storage
      exact ⟨.some ⟨congrArg Answer.contents hcontents, hde⟩, rfl⟩
  | push _ | step | runUntilIdle | execute _ | executeRaw _ _ _ _ | executeSlot _ _
  | write32 _ _ | write64 _ _ | writeOpcode _ _ | reset | restore _ =>
      refine keeps_of_isPlain total_twins.toLawful ?_ hde
      exact trivial

end Coprocessor
